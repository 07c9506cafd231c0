import Thought2Build.Integrations.TaskIssuesCore

/-! References of tasks: what a document's tasks are keyed by, and how a repeated title counts. -/

namespace Thought2Build.Integrations

open Patterns Pattern

namespace Texts

variable {texts : Texts}

theorem computeTaskRef_letters (texts : Texts) (title : String) (occurrence : Nat) :
    ∃ rest, (texts.computeTaskRef title occurrence).toList = 't' :: rest := by
  have letters : "task-".toList = ['t', 'a', 's', 'k', '-'] := by decide
  unfold computeTaskRef
  simp only [String.toList_ofList, letters]
  exact ⟨_, rfl⟩

theorem mem_tasksFrom {length : Nat} {seen : List String} {headings : List (Cursor × Cursor)} {task : ParsedTask}
    (member : task ∈ texts.tasksFrom length seen headings) :
    ∃ heading ∈ headings, ∃ before following, texts.taskAt length before heading following = .some task := by
  induction headings generalizing seen with
  | nil => simp [tasksFrom] at member
  | cons heading following ih =>
      rw [tasksFrom] at member
      split at member
      · obtain ⟨other, inside, found⟩ := ih member
        exact ⟨other, List.mem_cons_of_mem _ inside, found⟩
      · rename_i first parsed
        rcases List.mem_cons.mp member with rfl | later
        · exact ⟨heading, List.mem_cons_self, seen, following, parsed⟩
        · obtain ⟨other, inside, found⟩ := ih later
          exact ⟨other, List.mem_cons_of_mem _ inside, found⟩

theorem isLegacyTaskRef_computeTaskRef (title : String) (occurrence : Nat) :
    texts.isLegacyTaskRef (texts.computeTaskRef title occurrence) = false := by
  obtain ⟨rest, letters⟩ := computeTaskRef_letters texts title occurrence
  have number : "T-".toList = ['T', '-'] := by decide
  rw [isLegacyTaskRef, letters, Option.isSome_eq_false_iff, Option.isNone_iff_eq_none]
  refine Option.eq_none_iff_forall_ne_some.mpr fun finish found => ?_
  obtain ⟨middle, prefixed, _⟩ := List.mem_flatMap.mp (List.mem_of_head? found)
  have front := mem_ends_literal prefixed
  simp [number] at front

theorem computeTaskRef_congr {first second : String}
    (same : texts.normalizedTaskTitle first = texts.normalizedTaskTitle second) (occurrence : Nat) :
    texts.computeTaskRef first occurrence = texts.computeTaskRef second occurrence := by
  unfold computeTaskRef
  rw [same]

def Numbered (texts : Texts) (seen : List String) : List ParsedTask → Prop
  | [] => True
  | task :: rest =>
      task.taskRef = texts.computeTaskRef task.title (seen.count (texts.normalizedTaskTitle task.title)) ∧
        Numbered texts (texts.normalizedTaskTitle task.title :: seen) rest

theorem tasksFrom_numbered (length : Nat) (seen : List String) (headings : List (Cursor × Cursor)) :
    texts.Numbered seen (texts.tasksFrom length seen headings) := by
  induction headings generalizing seen with
  | nil => trivial
  | cons heading following ih =>
      rw [tasksFrom]
      split
      · exact ih seen
      · rename_i task parsed
        refine ⟨?_, ih _⟩
        rw [taskAt] at parsed
        split at parsed
        · obtain rfl := Option.some.inj parsed
          rfl
        · contradiction

def occurrences (texts : Texts) (tasks : List ParsedTask) (title : String) : Nat :=
  tasks.countP fun task => texts.normalizedTaskTitle task.title = texts.normalizedTaskTitle title

theorem Numbered.ref {seen : List String} {tasks : List ParsedTask} (numbered : texts.Numbered seen tasks)
    {task : ParsedTask} (member : task ∈ tasks) :
    ∃ occurrence < seen.count (texts.normalizedTaskTitle task.title) + texts.occurrences tasks task.title,
      task.taskRef = texts.computeTaskRef task.title occurrence := by
  induction tasks generalizing seen with
  | nil => simp at member
  | cons first rest ih =>
      rcases List.mem_cons.mp member with rfl | later
      · refine ⟨_, ?_, numbered.1⟩
        simp [occurrences]
      · obtain ⟨occurrence, bound, same⟩ := ih numbered.2 later
        refine ⟨occurrence, ?_, same⟩
        rw [List.count_cons] at bound
        simp only [occurrences, List.countP_cons, beq_iff_eq, decide_eq_true_eq] at bound ⊢
        omega

theorem Numbered.exists {seen : List String} {tasks : List ParsedTask} (numbered : texts.Numbered seen tasks)
    {title : String} {occurrence : Nat} (lower : seen.count (texts.normalizedTaskTitle title) ≤ occurrence)
    (upper : occurrence < seen.count (texts.normalizedTaskTitle title) + texts.occurrences tasks title) :
    ∃ task ∈ tasks, texts.normalizedTaskTitle task.title = texts.normalizedTaskTitle title ∧
      task.taskRef = texts.computeTaskRef title occurrence := by
  induction tasks generalizing seen with
  | nil =>
      simp only [occurrences, List.countP_nil] at upper
      omega
  | cons first rest ih =>
      by_cases same : texts.normalizedTaskTitle first.title = texts.normalizedTaskTitle title
      · rcases Nat.eq_or_lt_of_le lower with here | later
        · refine ⟨first, List.mem_cons_self, same, ?_⟩
          rw [numbered.1, same, here]
          exact computeTaskRef_congr same occurrence
        · obtain ⟨task, member, found⟩ := ih numbered.2
            (by simp only [List.count_cons, same, beq_self_eq_true, if_true]; omega)
            (by simp only [occurrences, List.countP_cons, same, decide_true, if_true,
                  List.count_cons, beq_self_eq_true] at upper ⊢; omega)
          exact ⟨task, List.mem_cons_of_mem _ member, found⟩
      · obtain ⟨task, member, found⟩ := ih numbered.2
          (by simpa [List.count_cons, same] using lower)
          (by simpa [occurrences, List.count_cons, List.countP_cons, same] using upper)
        exact ⟨task, List.mem_cons_of_mem _ member, found⟩

end Texts

end Thought2Build.Integrations
