import Thought2Build.Integrations.TaskRefMigration

/-!
The task-to-issue mapping over one sync: which rows keep their issues, which tasks get new ones, and when a
title that is still there loses an issue and gets another.
-/

namespace Thought2Build.Integrations

open FirstFit

namespace IssueTracker

variable {texts : Texts} {start tracker later : IssueTracker}

def refs (tracker : IssueTracker) : List String := tracker.rows.map (·.taskRef)

def numbers (tracker : IssueTracker) : List Nat := tracker.rows.map (·.externalIssueNumber)

structure Added (start : IssueTracker) (done : List String) (added : List IntegrationPushTask)
    (tracker : IssueTracker) : Prop where
  rows : tracker.rows = start.rows ++ added
  next : start.next ≤ tracker.next
  fresh : ∀ row ∈ added, row.taskRef ∈ done ∧ row.taskRef ∉ start.refs ∧
    start.next ≤ row.externalIssueNumber ∧ row.externalIssueNumber < tracker.next
  numbersDistinct : (added.map (·.externalIssueNumber)).Nodup
  refsDistinct : (added.map (·.taskRef)).Nodup
  covered : ∀ ref ∈ done, ref ∈ tracker.refs

theorem numberOf_eq_none {ref : String} : tracker.numberOf ref = none ↔ ref ∉ tracker.refs := by
  simp [numberOf, refs]

theorem numberOf_eq_some {ref : String} {number : Nat} (found : tracker.numberOf ref = some number) :
    ref ∈ tracker.refs := by
  by_contra absent
  rw [numberOf_eq_none.mpr absent] at found
  contradiction

theorem Added.step {done : List String} {added : List IntegrationPushTask} {task : ParsedTask}
    (before : Added start done added tracker) (synced : tracker.syncTask task = some later) :
    ∃ more, Added start (done ++ [task.taskRef]) more later := by
  unfold syncTask at synced
  split at synced
  · rename_i number found
    have known := numberOf_eq_some found
    rw [updateIssue] at synced
    split at synced
    · obtain rfl := Option.some.inj synced
      refine ⟨added, before.rows, before.next, ?_, before.numbersDistinct, before.refsDistinct, ?_⟩
      · intro row member
        obtain ⟨inside, rest⟩ := before.fresh row member
        exact ⟨List.mem_append_left _ inside, rest⟩
      · intro ref member
        rcases List.mem_append.mp member with old | new
        · exact before.covered ref old
        · rw [List.mem_singleton.mp new]
          exact known
    · contradiction
  · rename_i absent
    obtain rfl := Option.some.inj synced
    have unknown : task.taskRef ∉ tracker.refs := numberOf_eq_none.mp absent
    have whole : tracker.refs = start.refs ++ added.map (·.taskRef) := by simp [refs, before.rows]
    rw [whole, List.mem_append, not_or] at unknown
    refine ⟨added ++ [⟨task.taskRef, tracker.next⟩], ?_, ?_, ?_, ?_, ?_, ?_⟩
    · simp [createIssue, before.rows]
    · exact before.next.trans (Nat.le_succ _)
    · intro row member
      rcases List.mem_append.mp member with old | new
      · obtain ⟨inside, apart, lower, upper⟩ := before.fresh row old
        exact ⟨List.mem_append_left _ inside, apart, lower, upper.trans (Nat.lt_succ_self _)⟩
      · obtain rfl := List.mem_singleton.mp new
        exact ⟨by simp, unknown.1, before.next, Nat.lt_succ_self _⟩
    · rw [List.map_append, List.nodup_append]
      refine ⟨before.numbersDistinct, by simp, ?_⟩
      intro number old other new same
      obtain ⟨row, member, rfl⟩ := List.mem_map.mp old
      have upper := (before.fresh row member).2.2.2
      simp only [List.map_cons, List.map_nil, List.mem_singleton] at new
      omega
    · rw [List.map_append, List.nodup_append]
      refine ⟨before.refsDistinct, by simp, ?_⟩
      intro ref old other new same
      simp only [List.map_cons, List.map_nil, List.mem_singleton] at new
      exact unknown.2 (new ▸ same ▸ old)
    · intro ref member
      rcases List.mem_append.mp member with old | new
      · have known := before.covered ref old
        simp only [refs, createIssue, List.map_append, List.mem_append] at known ⊢
        exact Or.inl known
      · simp [refs, createIssue, List.mem_singleton.mp new]

theorem Added.run {tasks : List ParsedTask} {done : List String} {added : List IntegrationPushTask}
    (before : Added start done added tracker) (synced : tasks.foldlM syncTask tracker = some later) :
    ∃ more, Added start (done ++ tasks.map (·.taskRef)) more later := by
  induction tasks generalizing done added tracker with
  | nil =>
      obtain rfl := Option.some.inj synced
      exact ⟨added, by simpa using before⟩
  | cons task rest ih =>
      rw [List.foldlM_cons] at synced
      obtain ⟨next, first, others⟩ := Option.bind_eq_some_iff.mp synced
      obtain ⟨more, step⟩ := before.step first
      obtain ⟨all, run⟩ := ih step others
      exact ⟨all, by simpa using run⟩

theorem syncIssues_rows {tasks : List ParsedTask} (synced : tracker.syncIssues texts tasks = some later) :
    ∃ added middle, Added (tracker.migrateLegacyTaskRefs texts) (tasks.map (·.taskRef)) added middle ∧
      later.rows = ((tracker.migrateLegacyTaskRefs texts).rows ++ added).filter
        (·.taskRef ∈ tasks.map (·.taskRef)) := by
  obtain ⟨middle, run, retired⟩ := Option.bind_eq_some_iff.mp synced
  obtain rfl := Option.some.inj retired
  have start : Added (tracker.migrateLegacyTaskRefs texts) [] [] (tracker.migrateLegacyTaskRefs texts) :=
    ⟨by simp, Nat.le_refl _, by simp, by simp, by simp, by simp⟩
  obtain ⟨added, all⟩ := start.run run
  exact ⟨added, middle, all, by simp only [retireObsolete, all.rows]⟩

structure Issued (tracker : IssueTracker) : Prop where
  issues : (tracker.issues.map (·.number)).Nodup
  rows : tracker.numbers.Nodup
  below : ∀ row ∈ tracker.rows, row.externalIssueNumber < tracker.next

def storedTitle (tracker : IssueTracker) (number : Nat) : Option String :=
  ((tracker.issues.find? fun issue => !issue.pull && issue.number = number).map (·.title)).filter (· ≠ "")

/-- The row tracks a task with the title: by the stored title of its issue if its reference is a legacy one,
else by its reference. -/
def Tracks (texts : Texts) (limit : Nat) (tracker : IssueTracker) (title : String) (row : IntegrationPushTask) :
    Prop :=
  if texts.isLegacyTaskRef row.taskRef then
    ∃ stored, tracker.storedTitle row.externalIssueNumber = some stored ∧
      texts.normalizedTaskTitle stored = texts.normalizedTaskTitle title
  else ∃ index < limit, row.taskRef = texts.computeTaskRef title index

/-- The mapping after a sync follows the tasks: their references are those of the rows, each reference and each
number once; a row with a task's reference stays; and no issue that tracks a task's title is given up while a
task of the title goes to another issue. -/
structure Follows (texts : Texts) (limit : Nat) (tracker : IssueTracker) (tasks : List ParsedTask)
    (later : IssueTracker) : Prop where
  refs : ∀ ref, ref ∈ later.refs ↔ ref ∈ tasks.map (·.taskRef)
  refsDistinct : later.refs.Nodup
  numbersDistinct : later.numbers.Nodup
  kept : ∀ row ∈ tracker.rows, row.taskRef ∈ tasks.map (·.taskRef) → row ∈ later.rows
  titles : ∀ task ∈ tasks,
    (∃ row ∈ tracker.rows, tracker.Tracks texts limit task.title row ∧
      row.externalIssueNumber ∉ later.numbers) →
    ∃ row ∈ tracker.rows, tracker.Tracks texts limit task.title row ∧
      ⟨task.taskRef, row.externalIssueNumber⟩ ∈ later.rows

def vacancies (texts : Texts) (tracker : IssueTracker) (title : String) (bound : Nat) : Nat :=
  free (texts.computeTaskRef title) (tracker.stableRefs texts) bound

def recovered (texts : Texts) (tracker : IssueTracker) (title : String) : Nat :=
  (tracker.legacyRows texts).countP (tracker.recovers texts title)

def Supplied (texts : Texts) (tracker : IssueTracker) (tasks : List ParsedTask) (title : String) : Prop :=
  tracker.vacancies texts title (texts.occurrences tasks title) ≤
    min (tracker.recovered texts title) (tracker.vacancies texts title maxTitleOccurrences)

/-- The migration recovers every legacy row of the title, the document has room for them, and no stable row is
beyond the document's occurrences. -/
def NoneLost (texts : Texts) (limit : Nat) (tracker : IssueTracker) (tasks : List ParsedTask) (title : String) :
    Prop :=
  (∀ row ∈ tracker.rows, texts.isLegacyTaskRef row.taskRef = true → tracker.Tracks texts limit title row →
      tracker.recoveredTitle row.externalIssueNumber ≠ none) ∧
    tracker.recovered texts title ≤
      tracker.vacancies texts title (min maxTitleOccurrences (texts.occurrences tasks title)) ∧
    ∀ index < limit, texts.occurrences tasks title ≤ index →
      texts.computeTaskRef title index ∉ tracker.stableRefs texts

theorem mem_listIssues {issue : GitHubIssue} (member : issue ∈ tracker.listIssues) : issue ∈ tracker.issues := by
  obtain ⟨page, _, inside⟩ := List.mem_flatMap.mp member
  exact List.mem_of_mem_drop (List.mem_of_mem_take inside)

theorem mem_of_recovered {number : Nat} {found : String} (recovered : tracker.recoveredTitle number = some found) :
    ∃ issue ∈ tracker.issues, issue.pull = false ∧ issue.number = number ∧ issue.title = found ∧ found ≠ "" := by
  obtain ⟨titled, filled⟩ := Option.filter_eq_some_iff.mp recovered
  obtain ⟨issue, here, rfl⟩ := Option.map_eq_some_iff.mp titled
  have matched := List.find?_some here
  simp only [Bool.and_eq_true, Bool.not_eq_true', decide_eq_true_eq] at matched
  exact ⟨issue, mem_listIssues (List.mem_reverse.mp (List.mem_of_find?_eq_some here)), matched.1, matched.2, rfl,
    by simpa using filled⟩

theorem stored_of_recovered (issued : Issued tracker) {number : Nat} {found : String}
    (recovered : tracker.recoveredTitle number = some found) : tracker.storedTitle number = some found := by
  obtain ⟨issue, member, open_, same, rfl, filled⟩ := mem_of_recovered recovered
  rw [storedTitle]
  have single : (tracker.issues.find? fun issue => !issue.pull && issue.number = number) = some issue := by
    cases other : tracker.issues.find? fun issue => !issue.pull && issue.number = number with
    | none =>
        have := List.find?_eq_none.mp other issue member
        simp [open_, same] at this
    | some first =>
        have matched := List.find?_some other
        simp only [Bool.and_eq_true, Bool.not_eq_true', decide_eq_true_eq] at matched
        rw [List.inj_on_of_nodup_map issued.issues (List.mem_of_find?_eq_some other) member
          (matched.2.trans same.symm)]
  simp [single, filled]

variable {limit : Nat} {content title : String}

def titles (texts : Texts) (tracker : IssueTracker) (content : String) : List String :=
  (texts.parseTasks content).map (·.title) ++ tracker.issues.map (·.title)

/-- What a sync starts from: references and numbers of rows are distinct, and no references of the titles
collide below a limit that covers the document. -/
structure Synchronizable (texts : Texts) (limit : Nat) (tracker : IssueTracker) (content : String) : Prop where
  refs : tracker.refs.Nodup
  issued : Issued tracker
  apart : texts.Apart limit (tracker.titles texts content)
  room : maxTitleOccurrences ≤ limit
  fits : (texts.parseTasks content).length ≤ limit

namespace Synchronizable

theorem covers : Covers (tracker.titles texts content) tracker := by
  intro number found recovered
  obtain ⟨issue, member, _, _, rfl, _⟩ := mem_of_recovered recovered
  exact List.mem_append_right _ (List.mem_map.mpr ⟨issue, member, rfl⟩)

theorem known {task : ParsedTask} (member : task ∈ texts.parseTasks content) :
    task.title ∈ tracker.titles texts content :=
  List.mem_append_left _ (List.mem_map.mpr ⟨task, member, rfl⟩)

theorem numbered (texts : Texts) (content : String) : texts.Numbered [] (texts.parseTasks content) :=
  Texts.tasksFrom_numbered ..

theorem task_ref {task : ParsedTask} (member : task ∈ texts.parseTasks content) :
    ∃ index < texts.occurrences (texts.parseTasks content) task.title,
      task.taskRef = texts.computeTaskRef task.title index := by
  simpa using (numbered texts content).ref member

theorem task_of_occurrence {index : Nat} (bound : index < texts.occurrences (texts.parseTasks content) title) :
    ∃ task ∈ texts.parseTasks content,
      texts.normalizedTaskTitle task.title = texts.normalizedTaskTitle title ∧
        task.taskRef = texts.computeTaskRef title index :=
  (numbered texts content).exists (Nat.zero_le _) (by simpa using bound)

variable {row : IntegrationPushTask}

theorem legacy_not_mem (legacy : texts.isLegacyTaskRef row.taskRef = true) :
    row.taskRef ∉ (texts.parseTasks content).map (·.taskRef) := by
  intro inside
  obtain ⟨task, member, same⟩ := List.mem_map.mp inside
  obtain ⟨index, _, ref⟩ := task_ref member
  simp [← same, ref, Texts.isLegacyTaskRef_computeTaskRef] at legacy

variable (before : Synchronizable texts limit tracker content)
include before

theorem occurrences_le (title : String) : texts.occurrences (texts.parseTasks content) title ≤ limit :=
  List.countP_le_length.trans before.fits

theorem ref_mem_iff (known : title ∈ tracker.titles texts content) {index : Nat} (below : index < limit) :
    texts.computeTaskRef title index ∈ (texts.parseTasks content).map (·.taskRef) ↔
      index < texts.occurrences (texts.parseTasks content) title := by
  constructor
  · intro inside
    obtain ⟨task, member, same⟩ := List.mem_map.mp inside
    obtain ⟨own, bound, ref⟩ := task_ref member
    have limited := before.occurrences_le task.title
    obtain ⟨equal, rfl⟩ := before.apart task.title (Synchronizable.known member) title known own (by omega)
      index below (ref.symm.trans same)
    simpa only [Texts.occurrences, equal] using bound
  · intro bound
    obtain ⟨task, member, _, same⟩ := task_of_occurrence bound
    exact List.mem_map.mpr ⟨task, member, same⟩

theorem moved (inside : row ∈ tracker.rows) {ref : String} (moves : (row.taskRef, ref) ∈ tracker.moves texts) :
    texts.isLegacyTaskRef row.taskRef = true ∧ ∃ found index, index < maxTitleOccurrences ∧
      tracker.recoveredTitle row.externalIssueNumber = some found ∧ ref = texts.computeTaskRef found index := by
  obtain ⟨_, other, member, same, origin⟩ := (repoint_values _).2 _ moves
  obtain rfl := List.inj_on_of_nodup_map before.refs (mem_legacyRows.mp member).1 inside same
  exact ⟨(mem_legacyRows.mp member).2, origin⟩

theorem migrated_ref_iff {index : Nat} :
    texts.computeTaskRef title index ∈ (tracker.migrateLegacyTaskRefs texts).refs ↔
      texts.computeTaskRef title index ∈ tracker.stableRefs texts ∨
        texts.computeTaskRef title index ∈ (tracker.moves texts).map (·.2) := by
  constructor
  · intro inside
    obtain ⟨migrated, member, same⟩ := List.mem_map.mp inside
    obtain ⟨row, held, rfl⟩ := mem_migrated.mp member
    rcases newRef_cases texts tracker row with moves | unmoved
    · exact Or.inr (List.mem_map.mpr ⟨_, moves, same⟩)
    · refine Or.inl (mem_stableRefs.mpr ⟨row, held, ?_, unmoved.symm.trans same⟩)
      rw [← unmoved, show tracker.newRef texts row = _ from same, Texts.isLegacyTaskRef_computeTaskRef]
  · rintro (stable | moves)
    · obtain ⟨row, held, stable, same⟩ := mem_stableRefs.mp stable
      exact List.mem_map.mpr ⟨_, mem_migrated.mpr ⟨row, held, rfl⟩, (newRef_stable stable).trans same⟩
    · obtain ⟨move, member, same⟩ := List.mem_map.mp moves
      obtain ⟨row, held, key⟩ := repoint_keys member
      refine List.mem_map.mpr ⟨_, mem_migrated.mpr ⟨row, (mem_legacyRows.mp held).1, rfl⟩, ?_⟩
      have pair : (row.taskRef, move.2) ∈ tracker.moves texts := key ▸ member
      exact (newRef_of_mem before.refs pair).trans same

theorem supplied_iff (known : title ∈ tracker.titles texts content) :
    (∀ index < texts.occurrences (texts.parseTasks content) title,
        texts.computeTaskRef title index ∈ (tracker.migrateLegacyTaskRefs texts).refs) ↔
      tracker.Supplied texts (texts.parseTasks content) title := by
  have limited := before.occurrences_le title
  have moves : ∀ index < limit, texts.computeTaskRef title index ∈ (tracker.moves texts).map (·.2) ↔ _ :=
    fun index below => mem_repoint before.apart before.room covers known below _ (tracker.stableRefs texts)
  rw [Supplied]
  constructor
  · intro all
    by_contra short
    obtain ⟨index, below, vacant, rank⟩ := exists_free (not_le.mp short)
    rcases before.migrated_ref_iff.mp (all index below) with stable | moved
    · exact vacant stable
    · obtain ⟨_, under, fewer⟩ := (moves index (by omega)).mp moved
      have less := free_lt vacant under
      simp only [vacancies, recovered] at rank
      omega
  · intro enough index below
    rw [before.migrated_ref_iff]
    by_cases stable : texts.computeTaskRef title index ∈ tracker.stableRefs texts
    · exact Or.inl stable
    · right
      have less := free_lt stable below
      simp only [vacancies, recovered] at enough
      refine (moves index (by omega)).mpr ⟨stable, ?_, by omega⟩
      by_contra beyond
      have more : free (texts.computeTaskRef title) (tracker.stableRefs texts) maxTitleOccurrences ≤
          free (texts.computeTaskRef title) (tracker.stableRefs texts) index := free_mono (by omega)
      omega

variable {added : List IntegrationPushTask} {middle : IssueTracker}
  (loop : Added (tracker.migrateLegacyTaskRefs texts) ((texts.parseTasks content).map (·.taskRef)) added middle)
  (rows : later.rows = ((tracker.migrateLegacyTaskRefs texts).rows ++ added).filter
    (·.taskRef ∈ (texts.parseTasks content).map (·.taskRef)))
include rows

omit before in
theorem mem_later : row ∈ later.rows ↔
    row.taskRef ∈ (texts.parseTasks content).map (·.taskRef) ∧
      ((∃ former ∈ tracker.rows, row = ⟨tracker.newRef texts former, former.externalIssueNumber⟩) ∨
        row ∈ added) := by
  rw [rows, List.mem_filter, List.mem_append, mem_migrated, decide_eq_true_eq, and_comm]

include loop

theorem number_kept_iff (inside : row ∈ tracker.rows) :
    row.externalIssueNumber ∈ later.numbers ↔
      tracker.newRef texts row ∈ (texts.parseTasks content).map (·.taskRef) := by
  constructor
  · intro kept
    obtain ⟨other, member, same⟩ := List.mem_map.mp kept
    obtain ⟨current, ⟨former, held, rfl⟩ | new⟩ := (mem_later rows).mp member
    · obtain rfl := List.inj_on_of_nodup_map before.issued.rows held inside same
      exact current
    · have above := (loop.fresh other new).2.2.1
      have below := before.issued.below row inside
      have next : (tracker.migrateLegacyTaskRefs texts).next = tracker.next := rfl
      omega
  · intro current
    exact List.mem_map.mpr ⟨_, (mem_later rows).mpr ⟨current, Or.inl ⟨row, inside, rfl⟩⟩, rfl⟩

theorem stays_iff {task : ParsedTask} (member : task ∈ texts.parseTasks content) :
    (∃ row ∈ tracker.rows, tracker.Tracks texts limit task.title row ∧
        ⟨task.taskRef, row.externalIssueNumber⟩ ∈ later.rows) ↔
      task.taskRef ∈ (tracker.migrateLegacyTaskRefs texts).refs := by
  obtain ⟨index, bound, ref⟩ := task_ref member
  have limited := before.occurrences_le task.title
  have room := before.room
  constructor
  · rintro ⟨row, held, _, kept⟩
    obtain ⟨_, ⟨former, inside, same⟩ | new⟩ := (mem_later rows).mp kept
    · exact List.mem_map.mpr ⟨_, mem_migrated.mpr ⟨former, inside, same⟩, rfl⟩
    · have above := (loop.fresh _ new).2.2.1
      have below := before.issued.below row held
      have next : (tracker.migrateLegacyTaskRefs texts).next = tracker.next := rfl
      simp only at above
      omega
  · intro inside
    obtain ⟨migrated, found, same⟩ := List.mem_map.mp inside
    obtain ⟨row, held, rfl⟩ := mem_migrated.mp found
    have same : tracker.newRef texts row = task.taskRef := same
    refine ⟨row, held, ?_, (mem_later rows).mpr
      ⟨List.mem_map.mpr ⟨task, member, rfl⟩, Or.inl ⟨row, held, by rw [same]⟩⟩⟩
    rcases newRef_cases texts tracker row with moves | unmoved
    · obtain ⟨legacy, found, slot, under, recovered, moved⟩ := before.moved held moves
      rw [Tracks, if_pos legacy]
      obtain ⟨issue, stored, _, _, rfl, _⟩ := mem_of_recovered recovered
      refine ⟨issue.title, stored_of_recovered before.issued recovered, ?_⟩
      exact (before.apart _ (covers _ _ recovered) _ (Synchronizable.known member) slot (by omega) index (by omega)
        (moved.symm.trans (same.trans ref))).1
    · have stable : texts.isLegacyTaskRef row.taskRef = false := by
        rw [← unmoved, same, ref, Texts.isLegacyTaskRef_computeTaskRef]
      rw [Tracks, if_neg (by simp [stable])]
      exact ⟨index, by omega, unmoved.symm.trans (same.trans ref)⟩

theorem none_lost_iff (known : title ∈ tracker.titles texts content) :
    (∀ row ∈ tracker.rows, tracker.Tracks texts limit title row → row.externalIssueNumber ∈ later.numbers) ↔
      tracker.NoneLost texts limit (texts.parseTasks content) title := by
  have limited := before.occurrences_le title
  have room := before.room
  have distinct : ((tracker.legacyRows texts).map (·.taskRef)).Nodup := legacyRows_distinct before.refs
  have below := all_move_below before.apart before.room covers known limited distinct (tracker.stableRefs texts)
  have kept : ∀ row ∈ tracker.rows, row.externalIssueNumber ∈ later.numbers ↔ _ :=
    fun row inside => before.number_kept_iff loop rows inside
  constructor
  · intro all
    refine ⟨?_, ?_, ?_⟩
    · intro row inside legacy tracks lost
      have current := (kept row inside).mp (all row inside tracks)
      rcases newRef_cases texts tracker row with moves | unmoved
      · obtain ⟨_, found, _, _, recovered, _⟩ := before.moved inside moves
        simp [lost] at recovered
      · exact legacy_not_mem legacy (unmoved ▸ current)
    · refine below.mp fun row member recovers => ?_
      obtain ⟨inside, legacy⟩ := mem_legacyRows.mp member
      obtain ⟨found, recovered, own⟩ := recovers_iff.mp recovers
      have tracks : tracker.Tracks texts limit title row := by
        rw [Tracks, if_pos legacy]
        exact ⟨found, stored_of_recovered before.issued recovered, own⟩
      have current := (kept row inside).mp (all row inside tracks)
      rcases newRef_cases texts tracker row with moves | unmoved
      · obtain ⟨_, same, index, under, also, ref⟩ := before.moved inside moves
        obtain rfl := Option.some.inj (also.symm.trans recovered)
        rw [ref, Texts.computeTaskRef_congr own] at current moves
        exact ⟨index, (before.ref_mem_iff known (by omega)).mp current, moves⟩
      · exact absurd (unmoved ▸ current) (legacy_not_mem legacy)
    · intro index under beyond stable
      obtain ⟨row, inside, plain, ref⟩ := mem_stableRefs.mp stable
      have tracks : tracker.Tracks texts limit title row := by
        rw [Tracks, if_neg (by simp [plain])]
        exact ⟨index, under, ref⟩
      have current := (kept row inside).mp (all row inside tracks)
      rw [newRef_stable plain, ref, before.ref_mem_iff known under] at current
      omega
  · rintro ⟨recoverable, fits, ends⟩ row inside tracks
    rw [kept row inside]
    rw [Tracks] at tracks
    split at tracks
    · rename_i legacy
      obtain ⟨stored, titled, own⟩ := tracks
      have tracked : tracker.Tracks texts limit title row := by
        rw [Tracks, if_pos legacy]
        exact ⟨stored, titled, own⟩
      obtain ⟨found, recovered⟩ := Option.ne_none_iff_exists'.mp (recoverable row inside legacy tracked)
      obtain rfl := Option.some.inj ((stored_of_recovered before.issued recovered).symm.trans titled)
      obtain ⟨index, bound, moves⟩ := below.mpr fits row (mem_legacyRows.mpr ⟨inside, legacy⟩)
        (recovers_iff.mpr ⟨found, recovered, own⟩)
      rw [newRef_of_mem before.refs moves, before.ref_mem_iff known (by omega)]
      exact bound
    · rename_i plain
      obtain ⟨index, under, ref⟩ := tracks
      have stable : texts.isLegacyTaskRef row.taskRef = false := by simpa using plain
      rw [newRef_stable stable, ref, before.ref_mem_iff known under]
      by_contra beyond
      exact ends index under (by omega) (mem_stableRefs.mpr ⟨row, inside, stable, ref⟩)

omit before loop rows in
theorem tracks_congr {other : String} (same : texts.normalizedTaskTitle title = texts.normalizedTaskTitle other) :
    tracker.Tracks texts limit title row ↔ tracker.Tracks texts limit other row := by
  simp only [Tracks, same, Texts.computeTaskRef_congr same]

theorem later_distinct : later.refs.Nodup ∧ later.numbers.Nodup := by
  have migrated : (tracker.migrateLegacyTaskRefs texts).numbers.Nodup := by
    rw [IssueTracker.numbers, migrated_numbers]
    exact before.issued.rows
  have all : (((tracker.migrateLegacyTaskRefs texts).rows ++ added).map (·.taskRef)).Nodup ∧
      (((tracker.migrateLegacyTaskRefs texts).rows ++ added).map (·.externalIssueNumber)).Nodup := by
    rw [List.map_append, List.map_append, List.nodup_append, List.nodup_append]
    refine ⟨⟨migrated_refs_distinct before.refs, loop.refsDistinct, ?_⟩, migrated, loop.numbersDistinct, ?_⟩
    · intro ref old other new same
      obtain ⟨row, member, rfl⟩ := List.mem_map.mp new
      exact (loop.fresh row member).2.1 (same ▸ old)
    · intro number old other new same
      obtain ⟨row, member, rfl⟩ := List.mem_map.mp new
      obtain ⟨migrated, found, rfl⟩ := List.mem_map.mp old
      obtain ⟨former, held, rfl⟩ := mem_migrated.mp found
      have above := (loop.fresh row member).2.2.1
      have below := before.issued.below former held
      have next : (tracker.migrateLegacyTaskRefs texts).next = tracker.next := rfl
      simp only at same
      omega
  rw [IssueTracker.refs, IssueTracker.numbers, rows]
  exact ⟨(List.filter_sublist.map _).nodup all.1, (List.filter_sublist.map _).nodup all.2⟩

theorem follows_iff : Follows texts limit tracker (texts.parseTasks content) later ↔
    ∀ task ∈ texts.parseTasks content, tracker.Supplied texts (texts.parseTasks content) task.title ∨
      tracker.NoneLost texts limit (texts.parseTasks content) task.title := by
  constructor
  · intro follows task member
    by_cases safe : tracker.NoneLost texts limit (texts.parseTasks content) task.title
    · exact Or.inr safe
    · left
      rw [← before.none_lost_iff loop rows (known member)] at safe
      push Not at safe
      obtain ⟨row, inside, tracks, lost⟩ := safe
      refine (before.supplied_iff (known member)).mp fun index bound => ?_
      obtain ⟨other, found, same, ref⟩ := task_of_occurrence bound
      rw [← ref, ← before.stays_iff loop rows found]
      exact follows.titles other found ⟨row, inside, (tracks_congr same).mpr tracks, lost⟩
  · intro provided
    have distinct := before.later_distinct loop rows
    refine ⟨?_, distinct.1, distinct.2, ?_, ?_⟩
    · intro ref
      constructor
      · intro inside
        obtain ⟨row, member, rfl⟩ := List.mem_map.mp inside
        exact ((mem_later rows).mp member).1
      · intro current
        obtain ⟨row, member, same⟩ := List.mem_map.mp (loop.covered ref current)
        rw [loop.rows] at member
        have kept : row ∈ later.rows := by
          rw [rows, List.mem_filter]
          exact ⟨member, by simpa [same] using current⟩
        exact List.mem_map.mpr ⟨row, kept, same⟩
    · intro row inside current
      refine (mem_later rows).mpr ⟨current, Or.inl ⟨row, inside, ?_⟩⟩
      have stable : texts.isLegacyTaskRef row.taskRef = false := by
        cases legacy : texts.isLegacyTaskRef row.taskRef with
        | true => exact absurd current (legacy_not_mem legacy)
        | false => rfl
      rw [newRef_stable stable]
    · rintro task member ⟨row, inside, tracks, lost⟩
      rw [before.stays_iff loop rows member]
      rcases provided task member with supplied | safe
      · obtain ⟨index, bound, ref⟩ := task_ref member
        rw [ref]
        exact (before.supplied_iff (known member)).mpr supplied index bound
      · exact absurd ((before.none_lost_iff loop rows (known member)).mpr safe row inside tracks) lost

end Synchronizable

theorem sample_letters {index : Nat} (below : index < 1000) :
    (sampleTexts.computeTaskRef "A" index).toList =
      "task-".toList ++ 'a' :: (if index = 0 then [] else '\x1f' :: Nat.toDigits 10 index) := by
  have normalized : sampleTexts.normalizedTaskTitle "A" = "a" := by decide
  have plain : "tasks\x1f".toList = ['t', 'a', 's', 'k', 's', '\x1f'] := by decide
  have short : (Nat.toDigits 10 index).length ≤ 3 :=
    (Nat.length_toDigits_le_iff (by omega) (by omega)).mpr (by omega)
  unfold Texts.computeTaskRef
  rw [normalized, String.toList_ofList]
  split
  · simp [sampleTexts]
  · simp only [sampleTexts, String.toList_append, plain, String.toList_ofList]
    rw [List.take_of_length_le]
    · simp [Nat.toString_eq_repr]
    · simp [Nat.toString_eq_repr]
      omega

theorem sample_apart : sampleTexts.Apart 1000 ["A", "A"] := by
  intro first member second also i below j under same
  obtain rfl : first = "A" := by simpa using member
  obtain rfl : second = "A" := by simpa using also
  refine ⟨rfl, ?_⟩
  have letters := congrArg String.toList same
  rw [sample_letters below, sample_letters under] at letters
  by_cases zero : i = 0 <;> by_cases also : j = 0
  · omega
  · simp [zero, also] at letters
  · simp [zero, also] at letters
  · simp only [zero, also, if_false, List.append_cancel_left_eq, List.cons.injEq, true_and] at letters
    simpa using congrArg (Nat.ofDigitChars 10 · 0) letters
def renumbered : IssueTracker where
  rows := [{ taskRef := "T-1", externalIssueNumber := 1 }]
  issues := [{ number := 1, title := "A" }]
  next := 2

def crowded : IssueTracker where
  rows := [{ taskRef := "T-1", externalIssueNumber := 2001 }]
  issues := (List.range 2000).map (fun number => { number := number + 1, title := "pull", pull := true }) ++
    [{ number := 2001, title := "A" }]
  next := 2002

theorem crowded_listed : ∀ issue ∈ crowded.listIssues, issue.pull = true := by
  have pages : crowded.listIssues = crowded.issues.take (issuesMaxPages * issuesPageSize) :=
    Paging.pages_flatten crowded.issues issuesPageSize issuesMaxPages
  intro issue member
  rw [pages, crowded, List.take_left' (by simp [issuesMaxPages, issuesPageSize])] at member
  obtain ⟨number, _, rfl⟩ := List.mem_map.mp member
  rfl

end IssueTracker

end Thought2Build.Integrations
