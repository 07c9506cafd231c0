import Thought2Build.Pipeline.StageTransitions

/-!
The version history of a stage as an append-only log with a head. Every transaction of the pipeline
is a step of the log; the increments and the purge are the only ones that can miss its end.
-/

namespace Thought2Build.Pipeline

structure History where
  content : Option String
  currentVersion : Nat
  versions : List StageVersion
  nextRow : Nat
  increments : List Nat
  selected : List Nat

def StageRecord.history (record : StageRecord) : History where
  content := record.stage.content
  currentVersion := record.stage.currentVersion
  versions := record.versions
  nextRow := record.nextRow
  increments := record.increments
  selected := record.selected

namespace History

structure Continues (history : History) (version : Nat) (row : StageVersion) : Prop where
  id : row.id = history.nextRow
  version : row.version = version + 1
  free : row.version ∉ history.versions.map (·.version)

def push (history : History) (row : StageVersion) : History :=
  { history with
    content := some row.content
    currentVersion := row.version
    versions := history.versions ++ [row]
    nextRow := history.nextRow + 1 }

inductive Growth : History → History → Prop where
  | stay (history : History) : Growth history history
  | restore {history : History} {row : StageVersion} (member : row ∈ history.versions)
      (current : row.version = history.currentVersion) :
      Growth history { history with content := some row.content }
  | append {history : History} {row : StageVersion}
      (continues : history.Continues history.currentVersion row) : Growth history (history.push row)
  | load (history : History) :
      Growth history { history with increments := history.increments ++ [history.currentVersion] }
  | grow {history : History} {row : StageVersion} {loaded : Nat} (member : loaded ∈ history.increments)
      (continues : history.Continues loaded row) :
      Growth history { history.push row with increments := history.increments.erase loaded }
  | select {history : History} {rows : List StageVersion} (members : ∀ row ∈ rows, row ∈ history.versions)
      (old : ∀ row ∈ rows, row.version ≠ history.currentVersion) :
      Growth history { history with selected := history.selected ++ rows.map (·.id) }

def purge (history : History) (ids : List Nat) : History :=
  { history with
    versions := history.versions.filter (·.id ∉ ids)
    selected := history.selected.filter (· ∉ ids) }

inductive Step : History → History → Prop where
  | growth {before after : History} (growth : Growth before after) : Step before after
  | purge {history : History} {ids : List Nat} (read : ∀ id ∈ ids, id ∈ history.selected) :
      Step history (history.purge ids)

structure Sound (history : History) : Prop where
  idsBelow : ∀ row ∈ history.versions, row.id < history.nextRow
  idsDistinct : (history.versions.map (·.id)).Nodup
  versionsDistinct : (history.versions.map (·.version)).Nodup
  selectedBelow : ∀ id ∈ history.selected, id < history.nextRow
  head : history.currentVersion ≠ 0 → ∃ row ∈ history.versions,
    row.version = history.currentVersion ∧ history.content = some row.content ∧
      row.id ∉ history.selected
  positive : ∀ row ∈ history.versions, row.version ≠ 0

structure Complete (history : History) : Prop where
  versions : history.versions.map (·.version) = List.range' 1 history.currentVersion
  loaded : ∀ version ∈ history.increments, version ≤ history.currentVersion

theorem Sound.push {history : History} {row : StageVersion} {version : Nat} (sound : history.Sound)
    (continues : history.Continues version row) : (history.push row).Sound where
  idsBelow := by
    intro other member
    simp only [History.push, List.mem_append, List.mem_singleton] at member ⊢
    rcases member with old | rfl
    · have := sound.idsBelow other old
      omega
    · rw [continues.id]
      omega
  idsDistinct := by
    simp only [History.push, List.map_append, List.map_cons, List.map_nil]
    refine List.Nodup.append sound.idsDistinct (List.nodup_singleton _) ?_
    simp only [List.disjoint_singleton, List.mem_map, not_exists, not_and]
    intro other old same
    have := sound.idsBelow other old
    have := continues.id
    omega
  versionsDistinct := by
    simp only [History.push, List.map_append, List.map_cons, List.map_nil]
    exact List.Nodup.append sound.versionsDistinct (List.nodup_singleton _)
      (List.disjoint_singleton.mpr continues.free)
  selectedBelow := by
    intro id read
    have := sound.selectedBelow id read
    simp only [History.push]
    omega
  head := by
    intro _
    refine ⟨row, by simp [History.push], rfl, rfl, ?_⟩
    intro read
    have := sound.selectedBelow row.id read
    have := continues.id
    omega
  positive := by
    intro other member
    simp only [History.push, List.mem_append, List.mem_singleton] at member
    rcases member with old | rfl
    · exact sound.positive other old
    · have := continues.version
      omega

theorem Sound.growth {before after : History} (sound : before.Sound) (growth : Growth before after) :
    after.Sound := by
  cases growth with
  | stay => exact sound
  | restore member current =>
      refine { sound with head := ?_ }
      intro started
      obtain ⟨head, kept, same, _, unread⟩ := sound.head started
      have equal := List.inj_on_of_nodup_map sound.versionsDistinct kept member (same.trans current.symm)
      exact ⟨head, kept, same, by rw [equal], unread⟩
  | append continues => exact sound.push continues
  | load => exact { sound with }
  | grow _ continues => exact { sound.push continues with }
  | select members old =>
      refine { sound with selectedBelow := ?_, head := ?_ }
      · intro id read
        rcases List.mem_append.mp read with before | new
        · exact sound.selectedBelow id before
        · obtain ⟨row, chosen, rfl⟩ := List.mem_map.mp new
          exact sound.idsBelow row (members row chosen)
      · intro started
        obtain ⟨head, kept, same, text, unread⟩ := sound.head started
        refine ⟨head, kept, same, text, ?_⟩
        simp only [List.mem_append, List.mem_map, not_or, not_exists, not_and]
        refine ⟨unread, ?_⟩
        intro row chosen sameId
        have equal := List.inj_on_of_nodup_map sound.idsDistinct (members row chosen) kept sameId
        exact old row chosen (equal ▸ same)

theorem Sound.purge {history : History} {ids : List Nat} (sound : history.Sound)
    (read : ∀ id ∈ ids, id ∈ history.selected) : (history.purge ids).Sound where
  idsBelow row member := sound.idsBelow row (List.mem_filter.mp member).1
  idsDistinct := sound.idsDistinct.sublist (List.filter_sublist.map _)
  versionsDistinct := sound.versionsDistinct.sublist (List.filter_sublist.map _)
  selectedBelow id member := sound.selectedBelow id (List.mem_filter.mp member).1
  positive row member := sound.positive row (List.mem_filter.mp member).1
  head := by
    intro started
    obtain ⟨head, kept, same, text, unread⟩ := sound.head started
    refine ⟨head, ?_, same, text, ?_⟩
    · simp only [History.purge, List.mem_filter, decide_eq_true_eq]
      exact ⟨kept, fun deleted => unread (read head.id deleted)⟩
    · intro selected
      exact unread (List.mem_filter.mp selected).1

theorem Sound.step {before after : History} (sound : before.Sound) (step : Step before after) :
    after.Sound := by
  cases step with
  | growth growth => exact sound.growth growth
  | purge read => exact sound.purge read

theorem Growth.versions {before after : History} (growth : Growth before after) :
    before.versions <+: after.versions := by
  cases growth with
  | stay | restore | load | select => exact List.prefix_refl _
  | append | grow => exact List.prefix_append _ _

theorem Sound.head_stays {before after : History} {row : StageVersion} (sound : before.Sound)
    (step : Step before after) (member : row ∈ before.versions)
    (current : row.version = before.currentVersion) : row ∈ after.versions := by
  cases step with
  | growth growth => exact growth.versions.subset member
  | purge read =>
      have started : before.currentVersion ≠ 0 := current ▸ sound.positive row member
      obtain ⟨head, kept, same, _, unread⟩ := sound.head started
      have equal := List.inj_on_of_nodup_map sound.versionsDistinct member kept (current.trans same.symm)
      subst equal
      simp only [History.purge, List.mem_filter, decide_eq_true_eq]
      exact ⟨member, fun deleted => unread (read row.id deleted)⟩

theorem Complete.push {history : History} {row : StageVersion} (complete : history.Complete)
    (continues : history.Continues history.currentVersion row) : (history.push row).Complete where
  versions := by
    simp only [History.push, List.map_append, List.map_cons, List.map_nil, complete.versions,
      continues.version]
    rw [List.range'_concat]
    simp [Nat.add_comm]
  loaded := by
    intro version member
    have := complete.loaded version member
    have := continues.version
    simp only [History.push]
    omega

theorem Complete.growth {before after : History} (complete : before.Complete)
    (growth : Growth before after) : after.Complete := by
  cases growth with
  | stay => exact complete
  | restore => exact { complete with }
  | append continues => exact complete.push continues
  | load =>
      refine { complete with loaded := ?_ }
      intro version member
      rcases List.mem_append.mp member with old | new
      · exact complete.loaded version old
      · simp only [List.mem_singleton] at new
        exact new.le
  | @grow row loaded member continues =>
      -- A stale read would collide with a row that exists, so the read was of the head.
      have upper := complete.loaded loaded member
      have free := continues.free
      rw [complete.versions, continues.version, List.mem_range'_1] at free
      have current : loaded = before.currentVersion := by omega
      subst current
      have pushed := complete.push continues
      exact { pushed with loaded := fun version kept => pushed.loaded version (List.mem_of_mem_erase kept) }
  | select => exact { complete with }

structure Preserves (before after : History) : Prop where
  rows : before.nextRow ≤ after.nextRow
  unchanged : ∀ row ∈ after.versions, row ∈ before.versions ∨ before.nextRow ≤ row.id

theorem Preserves.refl (history : History) : Preserves history history where
  rows := Nat.le_refl _
  unchanged _ member := Or.inl member

theorem Preserves.trans {first second third : History} (former : Preserves first second)
    (latter : Preserves second third) : Preserves first third where
  rows := former.rows.trans latter.rows
  unchanged := by
    intro row member
    rcases latter.unchanged row member with old | new
    · exact former.unchanged row old
    · exact Or.inr (former.rows.trans new)

theorem Preserves.push {history : History} {row : StageVersion} {version : Nat}
    (continues : history.Continues version row) : Preserves history (history.push row) where
  rows := Nat.le_succ _
  unchanged := by
    intro other member
    simp only [History.push, List.mem_append, List.mem_singleton] at member
    rcases member with old | rfl
    · exact Or.inl old
    · exact Or.inr continues.id.ge

theorem Step.preserves {before after : History} (step : Step before after) : Preserves before after := by
  cases step with
  | growth growth =>
      cases growth with
      | stay | restore | load | select => exact ⟨Nat.le_refl _, fun _ member => Or.inl member⟩
      | append continues => exact Preserves.push continues
      | grow _ continues => exact { Preserves.push continues with }
  | purge => exact ⟨Nat.le_refl _, fun _ member => Or.inl (List.mem_filter.mp member).1⟩

end History

section

open StageRecord History

variable {checks : Checks} {around : Surroundings} {now : Int} {record after : StageRecord}
  {committed : Committed} {content : String} {identity : Option SourceIdentity} {author : Author}
  {operation : Operation}

theorem growth_of_same (same : after.history = record.history) : Growth record.history after.history := by
  rw [same]
  exact Growth.stay _

theorem growth_of_appended (free : record.NextFree)
    (same : after.history = (record.appended content identity author now).history) :
    Growth record.history after.history := by
  have continues : record.history.Continues record.stage.currentVersion {
      id := record.nextRow, version := record.stage.currentVersion + 1, content
      sourceIdentity := identity, createdBy := author, createdAt := now } := ⟨rfl, rfl, free⟩
  rw [same]
  exact Growth.append continues

def Operation.Purges : Operation → Prop
  | .purgeVersions _ => True
  | _ => False

theorem Commits.growth (commits : Commits checks around now record operation committed)
    (kept : ¬operation.Purges) : Growth record.history committed.record.history := by
  cases commits with
  | generate | preparePrompt | checkpointChunk | heartbeat | requestCancel | settledBefore | interruptEmpty
    | recoverLegacyStage | finaliseDrifted | finaliseBlocked | finalise | acknowledgeBlocked | acknowledge
    | overrideQualityGate | technologyCheck | criticReview | recoverChecking =>
      exact growth_of_same rfl
  | succeed _ _ free | replay _ _ free | persistQualityGateBlocked _ free
    | interruptSaved _ _ _ free | restore _ _ _ free | editFinalised _ free | editUnfinalised _ _ free
    | generateHarnessPatch _ free =>
      exact growth_of_appended free rfl
  | unlockInPlace _ found inPlace => exact Growth.restore (List.mem_of_find?_eq_some found) inPlace.1
  | loadIncrement => exact Growth.load _
  | @appendTasksVersion loaded newContent member free =>
      have continues : record.history.Continues loaded {
          id := record.nextRow, version := loaded + 1, content := newContent
          sourceIdentity := none, createdBy := .ai, createdAt := now } := ⟨rfl, rfl, free⟩
      exact Growth.grow member continues
  | selectVersions =>
      refine Growth.select ?_ ?_
      · intro row chosen
        exact (List.mem_filter.mp (List.mem_of_mem_take chosen)).1
      · intro row chosen
        have candidate := (List.mem_filter.mp (List.mem_of_mem_take chosen)).2
        simp only [Bool.and_eq_true, decide_eq_true_eq] at candidate
        exact candidate.1.2
  | purgeVersions => exact absurd trivial kept

theorem Commits.history (commits : Commits checks around now record operation committed) :
    History.Step record.history committed.record.history := by
  by_cases purges : operation.Purges
  · cases commits with
    | purgeVersions read => exact .purge read
    | _ => exact purges.elim
  · exact .growth (commits.growth purges)

end

namespace StageRecord

structure HeadRecorded (record : StageRecord) : Prop where
  distinct : (record.versions.map (·.version)).Nodup
  head : record.stage.currentVersion ≠ 0 → ∃ row ∈ record.versions,
    row.version = record.stage.currentVersion ∧ record.stage.content = some row.content

end StageRecord

namespace Workspace

open Histories

variable {checks : Checks} {workspace : Workspace} {event : Event} {type : StageType}

theorem history_beside {before after : StageRecord} (beside : Beside before after) :
    after.history = before.history := by
  have kept := congrArg StageRecord.history beside.kept
  simpa only [StageRecord.history, beside.content, beside.currentVersion] using kept

theorem step_growth (kept : ¬event.operation.Purges) :
    History.Growth (workspace.record type).history ((workspace.step checks event).record type).history := by
  rcases step_cases checks workspace event with refused | ⟨committed, _, commits, stepped⟩
  · exact growth_of_same (by rw [refused])
  · rw [stepped]
    by_cases own : type = event.type
    · subst own
      rw [commit_self]
      exact commits.growth kept
    · exact growth_of_same (history_beside (commit_beside own))

theorem step_history :
    History.Step (workspace.record type).history ((workspace.step checks event).record type).history := by
  by_cases purges : event.operation.Purges
  · rcases step_cases checks workspace event with refused | ⟨committed, _, commits, stepped⟩
    · exact .growth (growth_of_same (by rw [refused]))
    · rw [stepped]
      by_cases own : type = event.type
      · subst own
        rw [commit_self]
        exact commits.history
      · exact .growth (growth_of_same (history_beside (commit_beside own)))
  · exact .growth (step_growth purges)

theorem fresh_sound (inputs : WorkspaceInputs) (now : Int) :
    ((fresh inputs now).record type).history.Sound := by
  constructor <;> simp [fresh, StageRecord.history]

theorem fresh_complete (inputs : WorkspaceInputs) (now : Int) :
    ((fresh inputs now).record type).history.Complete := by
  constructor <;> simp [fresh, StageRecord.history]

theorem play_sound (start : (workspace.record type).history.Sound) (events : List Event) :
    ((play (step checks) workspace events).record type).history.Sound := by
  induction events generalizing workspace with
  | nil => exact start
  | cons event rest ih => exact ih (start.step step_history)

theorem play_preserves (events : List Event) : History.Preserves (workspace.record type).history
    ((play (step checks) workspace events).record type).history := by
  induction events generalizing workspace with
  | nil => exact .refl _
  | cons event rest ih => exact step_history.preserves.trans ih

theorem play_growth {events : List Event} (unpurged : ∀ event ∈ events, ¬event.operation.Purges)
    (complete : (workspace.record type).history.Complete) :
    ((play (step checks) workspace events).record type).history.Complete ∧
      (workspace.record type).versions <+: ((play (step checks) workspace events).record type).versions := by
  induction events generalizing workspace with
  | nil => exact ⟨complete, List.prefix_refl _⟩
  | cons event rest ih =>
      have growth := @step_growth checks workspace event type (unpurged event List.mem_cons_self)
      have later := ih (fun other member => unpurged other (List.mem_cons_of_mem _ member))
        (complete.growth growth)
      exact ⟨later.1, growth.versions.trans later.2⟩

/-- The version history of a stage over any run from a fresh workspace, seen at two of its moments. -/
theorem version_history_is_intact (checks : Checks) (inputs : WorkspaceInputs) (now : Int)
    (front back : List Event) (type : StageType) :
    let early := play (step checks) (fresh inputs now) front
    let late := play (step checks) early back
    (late.record type).HeadRecorded ∧
      (∀ row ∈ (early.record type).versions, ∀ other ∈ (late.record type).versions,
        other.id = row.id → other = row) ∧
      ((∀ event ∈ front ++ back, ¬event.operation.Purges) →
        (late.record type).versions.map (·.version) =
            List.range' 1 (late.record type).stage.currentVersion ∧
          (early.record type).versions <+: (late.record type).versions) ∧
      ∀ event, ∀ row ∈ (late.record type).versions,
        row.version = (late.record type).stage.currentVersion →
          row ∈ ((late.step checks event).record type).versions := by
  intro early late
  have soundEarly : (early.record type).history.Sound := play_sound (fresh_sound inputs now) front
  have soundLate : (late.record type).history.Sound := play_sound soundEarly back
  refine ⟨?_, ?_, ?_, ?_⟩
  · refine ⟨soundLate.versionsDistinct, ?_⟩
    intro started
    obtain ⟨row, member, current, text, _⟩ := soundLate.head started
    exact ⟨row, member, current, text⟩
  · intro row member other later same
    rcases (play_preserves back).unchanged other later with old | new
    · exact List.inj_on_of_nodup_map soundEarly.idsDistinct old member same
    · have := soundEarly.idsBelow row member
      omega
  · intro unpurged
    have first := @play_growth checks (fresh inputs now) type front
      (fun event member => unpurged event (List.mem_append_left back member)) (fresh_complete inputs now)
    have second := @play_growth checks early type back
      (fun event member => unpurged event (List.mem_append_right front member)) first.1
    exact ⟨second.1.versions, second.2⟩
  · intro event row member current
    exact soundLate.head_stays step_history member current

end Workspace

end Thought2Build.Pipeline
