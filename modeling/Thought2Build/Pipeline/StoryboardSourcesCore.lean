import Thought2Build.Pipeline.StageUnlocking
import Thought2Build.Pipeline.StoryboardsCore

/-!
The storyboards of one workspace beside its stages. A request builds its source package before the row is
reserved, and the row becomes ready in another transaction; a stage is finalised between any two of them.
-/

namespace Thought2Build.Pipeline

abbrev SourcePackage := StageType → Nat

/-- The row of `_load_current_versions`, pinned by `current_version`. -/
def StageRecord.currentId (record : StageRecord) : Option Nat :=
  (record.versions.find? (·.version = record.stage.currentVersion)).map (·.id)

/-- `build_storyboard_source`, refused unless every stage is finalised and its version found -/
def Workspace.storyboardSource (workspace : Workspace) : Option SourcePackage :=
  if workspace.finalisedAll stageOrder ∧ ∀ type ∈ stageOrder, (workspace.record type).currentId.isSome then
    some fun type => (workspace.record type).currentId.getD 0
  else none

/-- `finalise` has committed, and with it `mark_workspace_storyboards_stale`. -/
def Workspace.Finalises (checks : Checks) (workspace : Workspace) (event : Event) : Prop :=
  event.operation = .finalise ∧
    ∃ committed ∈ (workspace.transact checks event).toOption, committed.raised = none

instance (checks : Checks) (workspace : Workspace) (event : Event) : Decidable (workspace.Finalises checks event) :=
  inferInstanceAs (Decidable (_ ∧ ∃ committed ∈ (workspace.transact checks event).toOption, _))

structure StoryboardWorkspace where
  workspace : Workspace
  store : StoryboardStore
  packages : List SourcePackage := []
  sources : List SourcePackage := []

inductive StoryboardWorkspaceEvent where
  | stage (event : WorkspaceEvent)
  | buildSource
  /-- A request goes on with a package; a section regeneration has checked its base before. -/
  | reserve (package : Nat) (user : Nat) (action : StoryboardAction) (affordable : Bool)
  | background (event : StoryboardEvent)

/-- The storyboard events that neither come from a request nor from `finalise`. -/
def StoryboardEvent.Background : StoryboardEvent → Prop
  | .generate _ _ _ | .regenerate _ _ _ | .regenerateSection _ _ _ | .markStale _ => False
  | _ => True

instance : DecidablePred StoryboardEvent.Background
  | .generate _ _ _ | .regenerate _ _ _ | .regenerateSection _ _ _ | .markStale _ => isFalse id
  | .tick _ | .finaliseReady _ | .failAndRefund _ | .raise _ | .forceFail _ _ | .crash _ | .recover => isTrue trivial

namespace StoryboardWorkspace

def home : Nat := 0

def fresh (inputs : WorkspaceInputs) (now : Int) (owner : Nat) : StoryboardWorkspace where
  workspace := Workspace.fresh inputs now
  store := { owners := [owner] }

variable (checks : Checks) (state : StoryboardWorkspace)

def stage : WorkspaceEvent → StoryboardWorkspace
  | .transact event => { state with
      workspace := state.workspace.step checks event
      store := if state.workspace.Finalises checks event then state.store.markStale home else state.store }
  | .update problemStatement targetAgent =>
      { state with workspace := state.workspace.update problemStatement targetAgent }

def buildSource : StoryboardWorkspace :=
  { state with packages := state.packages ++ state.workspace.storyboardSource.toList }

def reserve (package user : Nat) (action : StoryboardAction) (affordable : Bool) : StoryboardWorkspace :=
  match state.packages[package]? with
  | none => state
  | some source =>
      let store := state.store.reserve home user action affordable
      { state with
        store
        sources := if store.rows.length = state.store.rows.length then state.sources else state.sources ++ [source] }

def step : StoryboardWorkspaceEvent → StoryboardWorkspace
  | .stage event => state.stage checks event
  | .buildSource => state.buildSource
  | .reserve package user action affordable => state.reserve package user action affordable
  | .background event => if event.Background then { state with store := state.store.step event } else state

def Reflects (place : Nat) : Prop :=
  ∃ source ∈ state.sources[place]?, ∀ type ∈ stageOrder, (state.workspace.record type).currentId = some (source type)

def Ready (place : Nat) : Prop := ∃ row ∈ state.store.rows[place]?, row.status = .ready

instance (place : Nat) : Decidable (state.Reflects place) :=
  inferInstanceAs (Decidable (∃ source ∈ state.sources[place]?, _))

instance (place : Nat) : Decidable (state.Ready place) :=
  inferInstanceAs (Decidable (∃ row ∈ state.store.rows[place]?, _))

def Current : Prop :=
  state.workspace.finalisedAll stageOrder = true → ∀ place, state.Ready place → state.Reflects place

end StoryboardWorkspace

end Thought2Build.Pipeline
