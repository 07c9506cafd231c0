import Thought2Build.Pipeline.StoryboardSettlement
import Thought2Build.Pipeline.StoryboardSourcesCore
import Thought2Build.Pipeline.VersionHistory

/-!
Superseded sources. A storyboard becomes stale when a stage is finalised; a run that ends after that, an
acknowledged edit and an increment make content current that no storyboard row hears of.
-/

namespace Thought2Build.Pipeline

open StageRecord Histories

section

variable {checks : Checks} {around : Surroundings} {now : Int} {record : StageRecord}
  {operation : Operation} {committed : Committed}

def Operation.appends : Operation → Bool
  | .appendTasksVersion _ _ => true
  | _ => false

theorem Commits.settles (commits : Commits checks around now record operation committed)
    (opens : record.Opens) (finalised : committed.record.stage.status = .finalised) :
    (operation = .finalise ∧ committed.raised = none) ∨
      (committed.record.stage.currentVersion = record.stage.currentVersion ∧ (record.stage.status = .finalised ∨
        (operation = .acknowledgeStale ∧ record.stage.status = .stale ∧ around.dependenciesFinalised = true ∧
          record.stage.pinned .blocked = false ∧ record.stage.pinned .checking = false ∧
            record.stage.readinessGate checks around.snapshot = none))) ∨
      (operation.appends = true ∧ record.stage.status = .finalised) := by
  cases commits with
  | finalise => exact Or.inl ⟨rfl, rfl⟩
  | acknowledge stale unblocked settled dependencies ready =>
      exact Or.inr (Or.inl ⟨rfl, Or.inr ⟨rfl, stale, dependencies, unblocked, settled, ready⟩⟩)
  | appendTasksVersion => exact Or.inr (Or.inr ⟨rfl, finalised⟩)
  | interruptEmpty found => exact absurd finalised (opens.previous_ne found).2
  | generate => exact moved_on .inProgress rfl (by decide) finalised
  | finaliseDrifted | editFinalised => exact moved_on .stale rfl (by decide) finalised
  | succeed | replay | persistQualityGateBlocked | interruptSaved | recoverLegacyStage | unlockInPlace
    | restore | editUnfinalised | generateHarnessPatch =>
      exact moved_on .draft rfl (by decide) finalised
  | _ => exact Or.inr (Or.inl ⟨rfl, Or.inl finalised⟩)

end

theorem currentId_stays {before after : StageRecord} (sound : before.history.Sound)
    (step : History.Step before.history after.history)
    (same : after.stage.currentVersion = before.stage.currentVersion) {id : Nat}
    (current : before.currentId = some id) : after.currentId = some id := by
  obtain ⟨row, found, rfl⟩ := Option.map_eq_some_iff.mp current
  have version : row.version = before.stage.currentVersion := by simpa using List.find?_some found
  have stays : row ∈ after.versions := sound.head_stays step (List.mem_of_find?_eq_some found) version
  unfold StageRecord.currentId
  rw [Option.map_eq_some_iff]
  cases again : after.versions.find? (·.version = after.stage.currentVersion) with
  | none =>
      have missing := List.find?_eq_none.mp again row stays
      simp [version, same] at missing
  | some other =>
      have otherVersion : other.version = after.stage.currentVersion := by simpa using List.find?_some again
      have equal := List.inj_on_of_nodup_map (sound.step step).versionsDistinct
        (List.mem_of_find?_eq_some again) stays (otherVersion.trans (same.trans version.symm))
      exact ⟨other, rfl, by rw [equal]⟩

namespace StoryboardStore

variable {store : StoryboardStore}

theorem length_foldl_failRow (chosen : List Nat) (store : StoryboardStore) :
    (chosen.foldl failRow store).rows.length = store.rows.length := by
  induction chosen generalizing store with
  | nil => rfl
  | cons first rest ih => rw [List.foldl_cons, ih, failRow_rows, List.length_modify]

structure Turns (event : StoryboardEvent) (before after : StoryboardStore) : Prop where
  length : after.rows.length = before.rows.length
  row : ∀ (place : Nat) (row : StoryboardRow), after.rows[place]? = some row → ∃ former,
    before.rows[place]? = some former ∧ row.workspace = former.workspace ∧ (row.status = .ready →
      former.status = .ready ∨ (event = .finaliseReady place ∧ before.runs[place]? = some .generating))

theorem turns_same {event : StoryboardEvent} {after : StoryboardStore} (same : after.rows = store.rows) :
    Turns event store after where
  length := by rw [same]
  row place row held := by
    rw [same] at held
    exact ⟨row, held, rfl, Or.inl⟩

theorem turns_failRow {event : StoryboardEvent} {storyboard : Nat} {after : StoryboardStore}
    (same : after.rows = (store.failRow storyboard).rows) : Turns event store after where
  length := by rw [same, failRow_rows, List.length_modify]
  row place row held := by
    rw [same, failRow_rows] at held
    obtain ⟨former, earlier, ⟨_, rfl⟩ | ⟨_, rfl⟩⟩ := modify_cases held
    · exact ⟨former, earlier, rfl, nofun⟩
    · exact ⟨row, earlier, rfl, Or.inl⟩

theorem turns_recover : Turns .recover store store.recover where
  length := length_foldl_failRow _ _
  row place row held := by
    cases earlier : store.rows[place]? with
    | none =>
        have gone := (foldl_failRow store.stuck store place).2 earlier
        rw [show store.recover.rows[place]? = none from gone] at held
        contradiction
    | some former =>
        obtain ⟨later, found, same, status⟩ := (foldl_failRow store.stuck store place).1 former earlier
        obtain rfl : later = row := Option.some.inj (found.symm.trans held)
        refine ⟨former, rfl, by rw [same], ?_⟩
        intro ready
        rcases status with kept | ⟨_, failed⟩
        · exact Or.inl (kept.symm.trans ready)
        · rw [failed] at ready
          contradiction

theorem turns_finaliseReady (storyboard : Nat) :
    Turns (.finaliseReady storyboard) store (store.finaliseReady storyboard) := by
  unfold StoryboardStore.finaliseReady
  split
  · rename_i generating
    refine ⟨List.length_modify .., ?_⟩
    intro place row held
    obtain ⟨former, earlier, ⟨rfl, rfl⟩ | ⟨_, rfl⟩⟩ := modify_cases held
    · exact ⟨former, earlier, rfl, fun _ => Or.inr ⟨rfl, generating⟩⟩
    · exact ⟨row, earlier, rfl, Or.inl⟩
  · exact turns_same rfl

theorem turns_of_background {event : StoryboardEvent} (background : event.Background) :
    Turns event store (store.step event) := by
  cases event with
  | tick | crash => exact turns_same rfl
  | finaliseReady storyboard => exact turns_finaliseReady storyboard
  | failAndRefund storyboard =>
      simp only [StoryboardStore.step, StoryboardStore.failAndRefund]
      split
      · exact turns_failRow rfl
      · exact turns_same rfl
  | raise storyboard =>
      simp only [StoryboardStore.step, StoryboardStore.raise]
      split <;> exact turns_same rfl
  | forceFail storyboard lost =>
      simp only [StoryboardStore.step, StoryboardStore.forceFail]
      split
      · split
        · exact turns_same rfl
        · exact turns_failRow rfl
      · exact turns_same rfl
  | recover => exact turns_recover
  | generate | regenerate | regenerateSection | markStale => exact background.elim

theorem reserve_rows (workspace user : Nat) (action : StoryboardAction) (affordable : Bool) :
    (store.reserve workspace user action affordable).rows = store.rows ∨
      ∃ row : StoryboardRow, (store.reserve workspace user action affordable).rows = store.rows ++ [row] ∧
        row.workspace = workspace ∧ row.status = .generating := by
  unfold reserve
  split
  · exact Or.inl rfl
  · exact Or.inr ⟨_, rfl, rfl, rfl⟩

end StoryboardStore

namespace StoryboardWorkspace

variable {checks : Checks} {state : StoryboardWorkspace} {place : Nat}

def AcknowledgesCurrent (checks : Checks) (state : StoryboardWorkspace) (event : Event) : Prop :=
  event.operation = .acknowledgeStale → state.workspace.Acknowledges checks event.type →
    (∀ other ∈ stageOrder, other ≠ event.type → (state.workspace.record other).stage.status = .finalised) →
      ∀ place < state.store.rows.length, state.Ready place → state.Reflects place

def AppendsUnseen (checks : Checks) (state : StoryboardWorkspace) (event : Event) : Prop :=
  event.operation.appends = true → (state.workspace.transact checks event).isOk = true →
    state.workspace.finalisedAll stageOrder = true → ∀ place < state.store.rows.length, ¬state.Ready place

def FinishesCurrent (state : StoryboardWorkspace) (place : Nat) : Prop :=
  state.store.runs[place]? = some .generating → state.workspace.finalisedAll stageOrder = true → state.Reflects place

instance (event : Event) : Decidable (state.AcknowledgesCurrent checks event) :=
  inferInstanceAs (Decidable (_ → _ → (∀ other ∈ stageOrder, _ → _) → ∀ place < state.store.rows.length, _ → _))

instance (event : Event) : Decidable (state.AppendsUnseen checks event) :=
  inferInstanceAs (Decidable (_ → _ → _ → ∀ place < state.store.rows.length, ¬_))

instance (place : Nat) : Decidable (state.FinishesCurrent place) := inferInstanceAs (Decidable (_ → _ → _))

def Careful (checks : Checks) (state : StoryboardWorkspace) : StoryboardWorkspaceEvent → Prop
  | .background (.finaliseReady place) => state.FinishesCurrent place
  | .stage (.transact event) => state.AcknowledgesCurrent checks event ∧ state.AppendsUnseen checks event
  | _ => True

instance (state : StoryboardWorkspace) : DecidablePred (state.Careful checks)
  | .background (.finaliseReady place) => inferInstanceAs (Decidable (state.FinishesCurrent place))
  | .stage (.transact event) =>
      inferInstanceAs (Decidable (state.AcknowledgesCurrent checks event ∧ state.AppendsUnseen checks event))
  | .background (.tick _) | .background (.failAndRefund _) | .background (.raise _) | .background (.forceFail _ _)
  | .background (.crash _) | .background .recover | .background (.generate _ _ _) | .background (.regenerate _ _ _)
  | .background (.regenerateSection _ _ _) | .background (.markStale _) | .stage (.update _ _) | .buildSource
  | .reserve _ _ _ _ => isTrue trivial

structure Sound (state : StoryboardWorkspace) : Prop where
  openable : state.workspace.Openable
  histories : ∀ type, (state.workspace.record type).history.Sound
  paired : state.sources.length = state.store.rows.length
  here : ∀ row ∈ state.store.rows, row.workspace = home
  current : state.Current

theorem finalisedAll_iff {workspace : Workspace} : workspace.finalisedAll stageOrder = true ↔
    ∀ type, (workspace.record type).stage.status = .finalised := by
  simp only [Workspace.finalisedAll, List.all_eq_true, decide_eq_true_eq]
  constructor
  · intro every type
    exact every type (by cases type <;> decide)
  · intro every type _
    exact every type

theorem Ready.inside (ready : state.Ready place) : place < state.store.rows.length := by
  obtain ⟨row, held, _⟩ := ready
  exact (List.getElem?_eq_some_iff.mp held).1

theorem Reflects.stays {later : StoryboardWorkspace} (reflects : state.Reflects place)
    (grows : state.sources <+: later.sources) (ids : ∀ type id,
      (state.workspace.record type).currentId = some id → (later.workspace.record type).currentId = some id) :
    later.Reflects place := by
  obtain ⟨source, held, current⟩ := reflects
  obtain ⟨rest, grown⟩ := grows
  refine ⟨source, ?_, fun type member => ids type _ (current type member)⟩
  rw [← grown, List.getElem?_append_left (List.getElem?_eq_some_iff.mp held).1]
  exact held

theorem Sound.not_ready_markStale (sound : state.Sound) {row : StoryboardRow}
    (held : (state.store.markStale home).rows[place]? = some row) : row.status ≠ .ready := by
  simp only [StoryboardStore.markStale, List.getElem?_map, Option.map_eq_some_iff] at held
  obtain ⟨former, earlier, rfl⟩ := held
  have own := sound.here former (List.mem_of_getElem? earlier)
  split
  · simp
  · rename_i other
    exact fun ready => other ⟨own, ready⟩

theorem Sound.commit_current (sound : state.Sound) {event : Event} {committed : Committed}
    (done : state.workspace.transact checks event = .ok committed)
    (silent : ¬state.workspace.Finalises checks event) (careful : state.Careful checks (.stage (.transact event)))
    (all : (state.workspace.commit event.type committed event.now).finalisedAll stageOrder = true)
    (ready : state.Ready place) :
    state.Reflects place ∧ committed.record.stage.currentVersion =
      (state.workspace.record event.type).stage.currentVersion := by
  rw [finalisedAll_iff] at all
  have others : ∀ other, other ≠ event.type → (state.workspace.record other).stage.status = .finalised :=
    fun other elsewhere => (Workspace.commit_beside elsewhere).finalised (all other)
  have own := all event.type
  rw [Workspace.commit_self] at own
  have before (finalised : (state.workspace.record event.type).stage.status = .finalised) :
      state.workspace.finalisedAll stageOrder = true := by
    rw [finalisedAll_iff]
    intro type
    by_cases same : type = event.type
    · rw [same]
      exact finalised
    · exact others type same
  rcases (Operation.commits done).settles (sound.openable event.type) own with
    ⟨finalise, clean⟩ | ⟨same, finalised | ⟨acknowledges, accepted⟩⟩ | ⟨appends, finalised⟩
  · exact absurd ⟨finalise, committed, by simp [done, Except.toOption], clean⟩ silent
  · exact ⟨sound.current (before finalised) place ready, same⟩
  · obtain ⟨stale, dependencies, unblocked, settled, passes⟩ := accepted
    exact ⟨careful.1 acknowledges ⟨stale, dependencies, unblocked, settled, passes⟩
      (fun other _ => others other) place ready.inside ready, same⟩
  · exact absurd ready (careful.2 appends (by simp [done, Except.isOk, Except.toBool]) (before finalised) place
      ready.inside)

theorem Sound.transact (sound : state.Sound) {event : Event}
    (careful : state.Careful checks (.stage (.transact event))) :
    (state.stage checks (.transact event)).Current := by
  intro all place ready
  by_cases finalises : state.workspace.Finalises checks event
  · obtain ⟨row, held, isReady⟩ := ready
    simp only [stage, if_pos finalises] at held
    exact absurd isReady (sound.not_ready_markStale held)
  · have former : state.Ready place := by simpa only [Ready, stage, if_neg finalises] using ready
    simp only [stage] at all
    cases done : state.workspace.transact checks event with
    | error refusal =>
        have refused : state.workspace.step checks event = state.workspace := by simp [Workspace.step, done]
        rw [refused] at all
        exact (sound.current all place former).stays (List.prefix_refl _) (fun type id => by simp [stage, refused])
    | ok committed =>
        rw [Workspace.step_of_ok done] at all
        obtain ⟨reflects, same⟩ := sound.commit_current done finalises careful all former
        refine reflects.stays (List.prefix_refl _) ?_
        intro type id
        refine currentId_stays (sound.histories type) Workspace.step_history ?_
        rw [Workspace.step_of_ok done]
        by_cases own : type = event.type
        · rw [own, Workspace.commit_self]
          exact same
        · exact (Workspace.commit_beside own).currentVersion

theorem Sound.update (sound : state.Sound) (problemStatement targetAgent : Option String) :
    (state.stage checks (.update problemStatement targetAgent)).Current := by
  have kept := Workspace.update_stage state.workspace problemStatement targetAgent
  intro all place ready
  have before : state.workspace.finalisedAll stageOrder = true := by
    rw [finalisedAll_iff] at all ⊢
    intro type
    have after := all type
    obtain ⟨status, same, moved⟩ := kept type
    simp only [stage, same, withStage_stage] at after
    rcases moved with rfl | ⟨rfl, _⟩
    · exact after
    · contradiction
  refine (sound.current before place ready).stays (List.prefix_refl _) ?_
  intro type id current
  obtain ⟨status, same, _⟩ := kept type
  simp only [stage, same]
  exact current

theorem Sound.stage (sound : state.Sound) {event : WorkspaceEvent} (careful : state.Careful checks (.stage event)) :
    (state.stage checks event).Sound := by
  have current : (state.stage checks event).Current := by
    cases event with
    | transact event => exact sound.transact careful
    | update problemStatement targetAgent => exact sound.update problemStatement targetAgent
  cases event with
  | update problemStatement targetAgent =>
      have openable := @Workspace.Openable.apply checks _ sound.openable (.update problemStatement targetAgent)
      refine { sound with openable, histories := ?_, current }
      intro type
      obtain ⟨status, same, _⟩ := Workspace.update_stage state.workspace problemStatement targetAgent type
      simp only [StoryboardWorkspace.stage, same]
      exact sound.histories type
  | transact event =>
      refine ⟨sound.openable.step, fun type => (sound.histories type).step Workspace.step_history, ?_, ?_, current⟩
      · simp only [StoryboardWorkspace.stage]
        split
        · simpa [StoryboardStore.markStale] using sound.paired
        · exact sound.paired
      · intro row member
        simp only [StoryboardWorkspace.stage] at member
        split at member
        · obtain ⟨former, held, rfl⟩ := List.mem_map.mp member
          split <;> exact sound.here former held
        · exact sound.here row member

theorem Sound.reserve (sound : state.Sound) (package user : Nat) (action : StoryboardAction) (affordable : Bool) :
    (state.reserve package user action affordable).Sound := by
  unfold StoryboardWorkspace.reserve
  split
  · exact sound
  · rename_i source held
    rcases @StoryboardStore.reserve_rows state.store home user action affordable with same | ⟨row, added, own, fresh⟩
    · refine { sound with paired := ?_, here := ?_, current := ?_ }
      · simpa [same] using sound.paired
      · rw [same]
        exact sound.here
      · intro all place ready
        have former : state.Ready place := by simpa only [Ready, same] using ready
        exact (sound.current all place former).stays (by simp [same]) fun _ _ => id
    · refine { sound with paired := ?_, here := ?_, current := ?_ }
      · simp [added, sound.paired]
      · rw [added]
        intro other member
        rcases List.mem_append.mp member with old | new
        · exact sound.here other old
        · rw [List.mem_singleton.mp new]
          exact own
      · rintro all place ⟨other, found, ready⟩
        simp only [added] at found
        rcases StoryboardStore.getElem?_concat_cases found with old | ⟨_, rfl⟩
        · exact (sound.current all place ⟨other, old, ready⟩).stays (by simp [added]) fun _ _ => id
        · rw [fresh] at ready
          contradiction

theorem Sound.background (sound : state.Sound) {event : StoryboardEvent} (background : event.Background)
    (careful : state.Careful checks (.background event)) :
    Sound { state with store := state.store.step event } := by
  have turns := @StoryboardStore.turns_of_background state.store event background
  refine { sound with paired := sound.paired.trans turns.length.symm, here := ?_, current := ?_ }
  · intro row member
    obtain ⟨place, held⟩ := List.getElem?_of_mem member
    obtain ⟨former, earlier, same, _⟩ := turns.row place row held
    rw [same]
    exact sound.here former (List.mem_of_getElem? earlier)
  · rintro all place ⟨row, held, ready⟩
    obtain ⟨former, earlier, _, turned⟩ := turns.row place row held
    rcases turned ready with before | ⟨rfl, generating⟩
    · exact sound.current all place ⟨former, earlier, before⟩
    · exact careful generating all

theorem Sound.step (sound : state.Sound) {event : StoryboardWorkspaceEvent} (careful : state.Careful checks event) :
    (state.step checks event).Sound := by
  cases event with
  | stage event => exact sound.stage careful
  | buildSource => exact { sound with }
  | reserve package user action affordable => exact sound.reserve package user action affordable
  | background event =>
      simp only [StoryboardWorkspace.step]
      split
      · rename_i background
        exact sound.background background careful
      · exact sound

theorem fresh_sound (inputs : WorkspaceInputs) (now : Int) (owner : Nat) : (fresh inputs now owner).Sound where
  openable := Workspace.fresh_openable inputs now
  histories _ := Workspace.fresh_sound inputs now
  paired := rfl
  here := by simp [fresh]
  current := by
    rintro _ place ⟨row, held, _⟩
    simp [fresh] at held

def sampleReserved : List StoryboardWorkspaceEvent :=
  (sampleFinalised .spec 0 1 "spec" 1 ++ sampleFinalised .plan 0 2 "plan" 1 ++
    sampleFinalised .harness 0 3 "harness" 1 ++ sampleFinalised .tasks 0 4 "tasks" 1).map (.stage ∘ .transact) ++
      [.buildSource, .reserve 0 7 .generate true]

def sampleRefinalised : List StoryboardWorkspaceEvent :=
  ({ type := .tasks, now := 5, operation := .handleContentEdit "other" none } ::
    sampleFinalised .tasks 1 6 "again" 3).map (.stage ∘ .transact)

end StoryboardWorkspace

end Thought2Build.Pipeline
