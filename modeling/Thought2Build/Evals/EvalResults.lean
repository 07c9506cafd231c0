import Thought2Build.Evals.EvalResultsCore

/-!
Which commits keep one row for a version, with its scores and the findings of the newest harness. The row is
selected without a lock, and a judge may finish with a harness read long before.
-/

namespace Thought2Build.Evals

open Histories Pipeline

structure EvalRow.KeepsScores (before after : EvalRow) : Prop where
  overallScore : before.overallScore.isSome = true → after.overallScore.isSome = true
  completeness : before.completeness.isSome = true → after.completeness.isSome = true
  clarity : before.clarity.isSome = true → after.clarity.isSome = true

def JudgeData.Covers (data : JudgeData) (row : EvalRow) : Prop :=
  (row.overallScore.isSome = true → data.overallScore.isSome = true) ∧
    (row.completeness.isSome = true → data.completeness.isSome = true) ∧
      (row.clarity.isSome = true → data.clarity.isSome = true)

instance (data : JudgeData) (row : EvalRow) : Decidable (data.Covers row) := inferInstanceAs (Decidable (_ ∧ _))

namespace EvalVersion

variable {references : String → List TaskIssue} {version : EvalVersion} {harness : HarnessRead}

def Shows (references : String → List TaskIssue) (version : EvalVersion) (row : EvalRow) : Prop :=
  ∀ used ∈ version.used,
    (row.tasksWithoutRef, row.flagged) = validateStageFindings references version.stageType used.content

/-- One row at most, no score lost, and the findings of the newest harness that a finished writer has used. -/
structure Respects (references : String → List TaskIssue) (version : EvalVersion) (event : EvalEvent) : Prop where
  sole : (version.step references event).rows.length ≤ 1
  scores : ∀ row ∈ version.rows, ∀ after ∈ (version.step references event).rows, row.KeepsScores after
  used : ∀ row ∈ (version.step references event).rows, (version.step references event).Shows references row
  held : (version.step references event).used ≠ none → (version.step references event).rows ≠ []

def Unchanged (version : EvalVersion) : Option Selected → Prop
  | none => version.rows = []
  | some selected => version.rows[selected.place]? = some selected.row

def Recent (version : EvalVersion) (harness : HarnessRead) : Prop :=
  ∀ used ∈ version.used, harness.content ≠ "" ∧ used.edits ≤ harness.edits

def Lands (version : EvalVersion) : WriterPoint → Prop
  | .committing (.judge data) harness selected =>
      version.Unchanged selected ∧ version.Recent harness ∧ ∀ row ∈ version.rows, data.Covers row
  | .committing _ harness selected => version.Unchanged selected ∧ version.Recent harness
  | _ => True

def Careful (version : EvalVersion) : EvalEvent → Prop
  | .commit key => ∀ point ∈ version.writers.lookup key, version.Lands point
  | _ => True

instance (selected : Option Selected) : Decidable (version.Unchanged selected) := by
  unfold Unchanged
  split <;> infer_instance

instance (harness : HarnessRead) : Decidable (version.Recent harness) := by
  unfold Recent; infer_instance

instance (point : WriterPoint) : Decidable (version.Lands point) := by
  unfold Lands
  split <;> infer_instance

instance (event : EvalEvent) : Decidable (version.Careful event) := by
  unfold Careful
  split <;> infer_instance

structure Sound (references : String → List TaskIssue) (version : EvalVersion) : Prop where
  sole : version.rows.length ≤ 1
  shows : ∀ row ∈ version.rows, version.Shows references row
  held : version.used ≠ none → version.rows ≠ []
  usable : ∀ used ∈ version.used, version.stageType = .tasks ∧ used.content ≠ ""

theorem ite_eq_self {α : Type} [DecidableEq α] (written loaded : α) :
    (if written = loaded then loaded else written) = written := by
  split
  · rename_i same
    exact same.symm
  · rfl

theorem merge_self (row written : EvalRow) : row.merge written row = written := by
  simp only [EvalRow.merge, ite_eq_self]

theorem findings_mark (row : EvalRow) (stageType : StageType) (harness : String) :
    ((row.mark stageType harness).tasksWithoutRef, (row.mark stageType harness).flagged) =
      (row.tasksWithoutRef, row.flagged) := by
  unfold EvalRow.mark
  split <;> rfl

theorem findings_write (row : EvalRow) (writer : EvalWriter) {content : String} (usable : content ≠ "") :
    ((row.write references .tasks content writer).tasksWithoutRef,
      (row.write references .tasks content writer).flagged) =
      validateStageFindings references .tasks content := by
  have validated : validateStageFindings references .tasks content =
      (some (references content), flags (references content)) := by
    simp [validateStageFindings, usable]
  cases writer with
  | structural => exact findings_mark ..
  | judge data =>
      refine (findings_mark ..).trans ?_
      simp [EvalRow.withFindings, EvalRow.judgedFindings, validated]
  | refresh | revalidate => rfl

theorem scores_mark (row : EvalRow) (stageType : StageType) (harness : String) :
    row.KeepsScores (row.mark stageType harness) := by
  unfold EvalRow.mark
  split <;> exact ⟨id, id, id⟩

theorem scores_write (references : String → List TaskIssue) (stageType : StageType) (content : String)
    {row : EvalRow} {writer : EvalWriter} (covers : ∀ data, writer = .judge data → data.Covers row) :
    row.KeepsScores (row.write references stageType content writer) := by
  cases writer with
  | structural =>
      have kept := scores_mark (row.withFindings (validateStageFindings references stageType content)) stageType content
      exact ⟨kept.overallScore, kept.completeness, kept.clarity⟩
  | judge data =>
      obtain ⟨overall, completeness, clarity⟩ := covers data rfl
      unfold EvalRow.write EvalRow.mark
      dsimp only
      split <;> exact ⟨overall, completeness, clarity⟩
  | refresh | revalidate => exact ⟨id, id, id⟩

theorem Lands.unchanged {writer : EvalWriter} {selected : Option Selected}
    (lands : version.Lands (.committing writer harness selected)) :
    version.Unchanged selected ∧ version.Recent harness := by
  cases writer with
  | judge data => exact ⟨lands.1, lands.2.1⟩
  | structural | refresh | revalidate => exact lands

theorem Sound.rows_commit (sound : version.Sound references) {key : Nat} {writer : EvalWriter}
    {selected : Option Selected}
    (found : version.writers.lookup key = some (.committing writer harness selected))
    (unchanged : version.Unchanged selected) :
    (version.rows = [] ∧ (version.commit references key).rows =
        [EvalRow.write references version.stageType harness.content {} writer]) ∨
      ∃ row, version.rows = [row] ∧ (version.commit references key).rows =
        [row.write references version.stageType harness.content writer] := by
  simp only [EvalVersion.commit, found]
  cases selected with
  | none =>
      have none : version.rows = [] := unchanged
      exact Or.inl ⟨none, by simp [none]⟩
  | some selected =>
      obtain ⟨place, row⟩ := selected
      have here : version.rows[place]? = some row := unchanged
      obtain ⟨inside, _⟩ := List.getElem?_eq_some_iff.mp here
      have bound := sound.sole
      obtain ⟨only, rows⟩ := List.length_eq_one_iff.mp (by omega : version.rows.length = 1)
      obtain rfl : place = 0 := by omega
      obtain rfl : only = row := by simpa [rows] using here
      exact Or.inr ⟨only, rows, by simp [rows, merge_self]⟩

theorem use_of_recent (recent : version.Recent harness) :
    (version.stageType = .tasks ∧ harness.content ≠ "" ∧ version.use harness = some harness) ∨
      ((version.stageType ≠ .tasks ∨ harness.content = "") ∧ version.use harness = version.used) := by
  unfold EvalVersion.use
  split
  · rename_i usable
    refine Or.inl ⟨usable.1, usable.2, ?_⟩
    split
    · rename_i used held
      rw [if_pos (recent used held).2]
    · rfl
  · rename_i unusable
    exact Or.inr ⟨not_and_or.mp unusable |>.imp_right not_not.mp, rfl⟩

theorem Sound.own_use (sound : version.Sound references) (recent : version.Recent harness) {used : HarnessRead}
    (held : version.use harness = some used) :
    version.stageType = .tasks ∧ harness.content ≠ "" ∧ used = harness := by
  rcases use_of_recent recent with ⟨tasks, usable, own⟩ | ⟨unusable, before⟩
  · rw [own] at held
    exact ⟨tasks, usable, (Option.some.inj held).symm⟩
  · rw [before] at held
    rcases unusable with other | empty
    · exact absurd (sound.usable used held).1 other
    · exact absurd empty (recent used held).1

theorem Sound.lands (sound : version.Sound references) {key : Nat} {writer : EvalWriter}
    {selected : Option Selected} (found : version.writers.lookup key = some (.committing writer harness selected))
    (lands : version.Lands (.committing writer harness selected)) :
    (version.commit references key).Sound references ∧
      ∀ row ∈ version.rows, ∀ after ∈ (version.commit references key).rows, row.KeepsScores after := by
  obtain ⟨unchanged, recent⟩ := lands.unchanged
  have used : (version.commit references key).used = version.use harness := by
    simp [EvalVersion.commit, found]
  have type : (version.commit references key).stageType = version.stageType := by
    simp [EvalVersion.commit, found, EvalVersion.leave]
  have rows := sound.rows_commit found unchanged
  obtain ⟨row, written⟩ : ∃ row : EvalRow, (version.commit references key).rows =
      [row.write references version.stageType harness.content writer] := by
    rcases rows with ⟨_, fresh⟩ | ⟨row, _, updated⟩
    · exact ⟨_, fresh⟩
    · exact ⟨row, updated⟩
  constructor
  · constructor
    · simp [written]
    · intro after member read held
      rw [written, List.mem_singleton] at member
      rw [used] at held
      obtain ⟨tasks, usable, rfl⟩ := sound.own_use recent held
      rw [member, type, tasks]
      exact findings_write row writer usable
    · simp [written]
    · intro read held
      rw [used] at held
      obtain ⟨tasks, usable, rfl⟩ := sound.own_use recent held
      exact ⟨type.trans tasks, usable⟩
  · intro before member after kept
    rcases rows with ⟨none, _⟩ | ⟨row, one, updated⟩
    · simp [none] at member
    · rw [one, List.mem_singleton] at member
      rw [updated, List.mem_singleton] at kept
      subst member kept
      refine scores_write references version.stageType harness.content ?_
      rintro data rfl
      exact lands.2.2 before (by simp [one])

theorem Sound.other (sound : version.Sound references) {later : EvalVersion} (rows : later.rows = version.rows)
    (used : later.used = version.used) (type : later.stageType = version.stageType) :
    later.Sound references ∧ ∀ row ∈ version.rows, ∀ after ∈ later.rows, row.KeepsScores after := by
  constructor
  · constructor
    · rw [rows]
      exact sound.sole
    · intro row member read held
      rw [type]
      exact sound.shows row (rows ▸ member) read (used ▸ held)
    · rw [rows, used]
      exact sound.held
    · intro read held
      rw [type]
      exact sound.usable read (used ▸ held)
  · intro row member after kept
    rw [rows] at kept
    obtain ⟨only, one⟩ := List.length_eq_one_iff.mp
      (Nat.le_antisymm sound.sole (List.length_pos_of_mem member))
    rw [one, List.mem_singleton] at member kept
    rw [member, kept]
    exact ⟨id, id, id⟩

theorem begin_same (version : EvalVersion) (key : Nat) (writer : EvalWriter) :
    (version.begin key writer).rows = version.rows ∧ (version.begin key writer).used = version.used ∧
      (version.begin key writer).stageType = version.stageType := by
  unfold EvalVersion.begin
  split
  · exact ⟨rfl, rfl, rfl⟩
  · split
    · split
      · exact ⟨rfl, rfl, rfl⟩
      · split <;> exact ⟨rfl, rfl, rfl⟩
    · split <;> exact ⟨rfl, rfl, rfl⟩
    · exact ⟨rfl, rfl, rfl⟩

theorem Sound.step (sound : version.Sound references) (event : EvalEvent) (careful : version.Careful event) :
    (version.step references event).Sound references ∧
      ∀ row ∈ version.rows, ∀ after ∈ (version.step references event).rows, row.KeepsScores after := by
  cases event with
  | editHarness content => exact sound.other rfl rfl rfl
  | begin key writer =>
      obtain ⟨rows, used, type⟩ := begin_same version key writer
      exact sound.other rows used type
  | readHarness key =>
      simp only [EvalVersion.step, EvalVersion.readHarness]
      split
      · split <;> exact sound.other rfl rfl rfl
      · exact sound.other rfl rfl rfl
  | selectRow key =>
      simp only [EvalVersion.step, EvalVersion.selectRow]
      split <;> exact sound.other rfl rfl rfl
  | abandon key => exact sound.other rfl rfl rfl
  | commit key =>
      by_cases ready : ∃ writer harness selected,
          version.writers.lookup key = some (.committing writer harness selected)
      · obtain ⟨writer, harness, selected, found⟩ := ready
        exact sound.lands found (careful _ found)
      · simp only [EvalVersion.step, EvalVersion.commit]
        split
        · rename_i writer harness selected found
          exact absurd ⟨writer, harness, selected, found⟩ ready
        · exact sound.other rfl rfl rfl

theorem sound_initial (references : String → List TaskIssue) (stageType : StageType) (harness : String) :
    Sound references { stageType, harness } := by
  constructor <;> simp

/-- In a run whose commits all land, the version has one row, with its scores and the newest findings. -/
theorem one_row_newest_findings (references : String → List TaskIssue) (stageType : StageType) (harness : String)
    (events : List EvalEvent) (careful : Along (step references) Careful { stageType, harness } events)
    (front : List EvalEvent) (event : EvalEvent) (back : List EvalEvent) (split : events = front ++ event :: back) :
    Respects references (play (step references) { stageType, harness } front) event := by
  subst split
  obtain ⟨before, now, _⟩ := along_append.mp careful
  have kept : ∀ state event, Sound references state → Careful state event →
      Sound references (state.step references event) :=
    fun _ event sound careful => (sound.step event careful).1
  have sound := before.invariant kept (sound_initial references stageType harness)
  obtain ⟨after, scores⟩ := sound.step event now
  exact { sole := after.sole, scores, used := after.shows, held := after.held }

def sampleReferences (harness : String) : List TaskIssue :=
  if harness = "first" then [{ gapType := some "GENUINE_GAP" }] else []

def sampleEvents : List EvalEvent :=
  [.begin 0 .structural, .selectRow 0, .commit 0, .editHarness "second", .begin 1 .revalidate, .selectRow 1,
    .commit 1, .begin 2 (.judge { overallScore := some 80 }), .selectRow 2]

theorem one_row_newest_findings_sample : Respects sampleReferences
    (play (step sampleReferences) { stageType := .tasks, harness := "first" } sampleEvents) (.commit 2) :=
  one_row_newest_findings sampleReferences .tasks "first" (sampleEvents ++ [.commit 2]) (by decide) sampleEvents _ []
    rfl

def insertedTwice : List EvalEvent :=
  [.begin 0 .revalidate, .begin 1 .revalidate, .selectRow 0, .selectRow 1, .commit 0]

def scoredTwice : List EvalEvent :=
  [.begin 0 (.judge { overallScore := some 80 }), .selectRow 0, .commit 0, .begin 1 (.judge {}), .selectRow 1]

def judgedLate : List EvalEvent :=
  [.begin 0 (.judge { overallScore := some 80 }), .editHarness "second", .begin 1 .revalidate, .selectRow 1,
    .commit 1, .selectRow 0]

theorem second_row_lost_score_old_findings :
    ¬Respects sampleReferences
        (play (step sampleReferences) { stageType := .tasks, harness := "first" } insertedTwice) (.commit 1) ∧
      ¬Respects sampleReferences
        (play (step sampleReferences) { stageType := .tasks, harness := "first" } scoredTwice) (.commit 1) ∧
      ¬Respects sampleReferences
        (play (step sampleReferences) { stageType := .tasks, harness := "first" } judgedLate) (.commit 0) := by
  refine ⟨fun respects => ?_, fun respects => ?_, fun respects => ?_⟩
  · have sole := respects.sole
    revert sole
    decide
  · let unscored : EvalRow :=
      { tasksWithoutRef := some (sampleReferences "first"), flagged := true, structuralValidatorVersion := 2 }
    have scores := (respects.scores { unscored with overallScore := some 80 } (by decide) unscored
      (by decide)).overallScore
    revert scores
    decide
  · have used := respects.used _ List.mem_cons_self ⟨1, "second"⟩ (by decide)
    revert used
    decide

end EvalVersion

end Thought2Build.Evals
