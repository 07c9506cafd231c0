import Thought2Build.Integrations.TaskReferences

/-!
What a pull request is judged against. Rows are keyed by the content of a task, the criteria by its number, so
they never meet.
-/

namespace Thought2Build.Integrations

open Patterns Pattern

namespace Texts

variable {texts : Texts}

def Keyed (texts : Texts) (row : IntegrationPushTask) : Prop :=
  ∃ title occurrence, row.taskRef = texts.computeTaskRef title occurrence

def linkedTasks (texts : Texts) (rows : List IntegrationPushTask) (content body : Option String) :
    List ParsedTask :=
  (texts.parseTasks (content.getD "")).filter fun task => rows.any fun row =>
    row.taskRef = task.taskRef && row.externalIssueNumber ∈ texts.closedIssues (body.getD "")

theorem taskNumber_letters {cursor finish : Cursor} {read : List Char}
    (found : finish ∈ ends texts.taskNumber cursor) (reads : cursor.ahead = read ++ finish.ahead) :
    ∃ rest, read = 'T' :: rest := by
  obtain ⟨middle, prefixed, digits⟩ := List.mem_flatMap.mp found
  have letters : "T-".toList = ['T', '-'] := by decide
  have front := mem_ends_literal prefixed
  obtain ⟨digit, ahead, _⟩ := ends_reads digits
  rw [letters, ahead, reads, ← List.append_assoc] at front
  exact ⟨'-' :: digit, List.append_cancel_right front⟩

theorem taskNumber_plain (texts : Texts) : texts.taskNumber.plain = true := by
  have literal : (Pattern.literal "T-").plain = true := by decide
  simp [taskNumber, Pattern.sequence, Pattern.plain, Pattern.some, literal]

theorem taskHeading_groups {cursor finish : Cursor} (found : finish ∈ ends texts.taskHeading cursor) :
    ∃ title rest, finish.groups = title :: ('T' :: rest) :: cursor.groups := by
  unfold taskHeading at found
  obtain ⟨line, start, found⟩ := List.mem_flatMap.mp found
  obtain ⟨marked, mark, found⟩ := List.mem_flatMap.mp found
  obtain ⟨spaced, space, found⟩ := List.mem_flatMap.mp found
  obtain ⟨numbered, number, found⟩ := List.mem_flatMap.mp found
  obtain ⟨colon, sign, found⟩ := List.mem_flatMap.mp found
  obtain ⟨apart, gap, found⟩ := List.mem_flatMap.mp found
  obtain ⟨titled, title, found⟩ := List.mem_flatMap.mp found
  have before : spaced.groups = cursor.groups := by
    rw [groups_of_plain rfl space, groups_of_plain (by decide) mark, groups_of_plain rfl start]
  obtain ⟨inner, digits, ahead, _, read, _, reads, captured⟩ := mem_ends_group number
  obtain ⟨rest, rfl⟩ := taskNumber_letters digits reads
  have outside : inner.groups = spaced.groups := groups_of_plain (taskNumber_plain texts) digits
  have between : apart.groups = numbered.groups := by
    rw [groups_of_plain rfl gap, groups_of_plain rfl sign]
  obtain ⟨words, named, _, _, name, _, _, capturedTitle⟩ := mem_ends_group title
  have unnamed : words.groups = apart.groups := groups_of_plain rfl named
  have after : finish.groups = titled.groups := groups_of_plain rfl found
  exact ⟨name, rest, by rw [after, capturedTitle, unnamed, between, captured, outside, before]⟩

theorem ref_letters {content : String} {task : ParsedTask} (member : task ∈ texts.parseTasks content) :
    ∃ rest, task.ref.toList = 'T' :: rest := by
  obtain ⟨heading, found, before, following, parsed⟩ := mem_tasksFrom member
  obtain ⟨matched, _⟩ := mem_search found
  obtain ⟨title, rest, groups⟩ := taskHeading_groups matched
  rw [taskAt, groups] at parsed
  obtain rfl := Option.some.inj parsed
  exact ⟨rest, by simp⟩

theorem ref_ne_computeTaskRef {content : String} {task : ParsedTask} (member : task ∈ texts.parseTasks content)
    (title : String) (occurrence : Nat) : task.ref ≠ texts.computeTaskRef title occurrence := by
  intro same
  obtain ⟨rest, letters⟩ := ref_letters member
  obtain ⟨others, also⟩ := computeTaskRef_letters texts title occurrence
  rw [same, also] at letters
  simp at letters

theorem resolve_keyed {rows : List IntegrationPushTask} (keyed : ∀ row ∈ rows, texts.Keyed row)
    (content body : Option String) : texts.resolveAcceptanceCriteria rows content body = [] := by
  have unwanted : ∀ task ∈ texts.parseTasks (content.getD ""),
      task.ref ∉ (rows.filter (·.externalIssueNumber ∈ texts.closedIssues (body.getD ""))).map (·.taskRef) := by
    intro task member wanted
    obtain ⟨row, kept, same⟩ := List.mem_map.mp wanted
    obtain ⟨title, occurrence, key⟩ := keyed row (List.mem_of_mem_filter kept)
    exact ref_ne_computeTaskRef member title occurrence (same.symm.trans key)
  simp only [resolveAcceptanceCriteria]
  split
  · rfl
  · generalize texts.parseTasks (content.getD "") = tasks at unwanted
    induction tasks with
    | nil => rfl
    | cons task rest ih =>
        rw [List.foldl_cons, if_neg (unwanted task List.mem_cons_self)]
        exact ih fun other member => unwanted other (List.mem_cons_of_mem _ member)

/-- The criteria are those of exactly the tasks whose issues the body closes if and only if it closes the issue
of no task. -/
theorem criteria_of_linked_iff (texts : Texts) (rows : List IntegrationPushTask) (content body : Option String)
    (keyed : ∀ row ∈ rows, texts.Keyed row) :
    ((texts.resolveAcceptanceCriteria rows content body).map (·.2)).Perm
        ((texts.linkedTasks rows content body).map (·.criterion)) ↔
      ∀ task ∈ texts.parseTasks (content.getD ""), ∀ row ∈ rows, row.taskRef = task.taskRef →
        row.externalIssueNumber ∉ texts.closedIssues (body.getD "") := by
  rw [resolve_keyed keyed, List.map_nil, List.nil_perm, List.map_eq_nil_iff, linkedTasks,
    List.filter_eq_nil_iff]
  simp

theorem criteria_of_linked_iff_sample :
    (∀ row ∈ ([⟨"task-a", 5⟩] : List IntegrationPushTask), sampleTexts.Keyed row) ∧
      (((sampleTexts.resolveAcceptanceCriteria [⟨"task-a", 5⟩] (some "### T-1: A") (some "for #5")).map (·.2)).Perm
          ((sampleTexts.linkedTasks [⟨"task-a", 5⟩] (some "### T-1: A") (some "for #5")).map (·.criterion)) ↔
        ∀ task ∈ sampleTexts.parseTasks "### T-1: A", ∀ row ∈ ([⟨"task-a", 5⟩] : List IntegrationPushTask),
          row.taskRef = task.taskRef → row.externalIssueNumber ∉ sampleTexts.closedIssues "for #5") := by
  have keyed : ∀ row ∈ ([⟨"task-a", 5⟩] : List IntegrationPushTask), sampleTexts.Keyed row := by
    intro row member
    obtain rfl := List.mem_singleton.mp member
    exact ⟨"A", 0, by decide⟩
  exact ⟨keyed, criteria_of_linked_iff sampleTexts _ (some "### T-1: A") (some "for #5") keyed⟩

theorem linked_task_without_criteria :
    sampleTexts.resolveAcceptanceCriteria [⟨"task-a", 5⟩] (some "### T-1: A") (some "Closes #5") = [] ∧
      sampleTexts.linkedTasks [⟨"task-a", 5⟩] (some "### T-1: A") (some "Closes #5") =
        [⟨"T-1", "A", "", "task-a"⟩] := by
  decide

end Texts

end Thought2Build.Integrations
