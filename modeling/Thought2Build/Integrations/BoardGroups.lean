import Mathlib.Algebra.GroupWithZero.Nat
import Thought2Build.Integrations.BoardGroupsCore
import Thought2Build.Integrations.TaskCuts
import Thought2Build.Integrations.TaskReaders

/-! When the tasks by phase are the tasks of the document. -/

namespace Thought2Build.Integrations

open Patterns Pattern
open Pipeline (isSpace strip)

namespace Texts

variable (texts : Texts)

def nearestPhase (phases : List (Cursor × Cursor)) (start : Nat) : Option String :=
  (phases.filter fun phase => phase.1.before.length < start).getLast?.map phaseTitle

def phasedTasks (content : String) : List (Option String × ParsedTask) :=
  let phases := findIter texts.phaseHeading content.toList
  ((findIter texts.taskHeading content.toList).map fun heading => nearestPhase phases heading.1.before.length).zip
    (texts.parseTasks content)

/-- The groups are the tasks with their phases; each issue gets the milestone of its task's phase and one card, in the
column of its own state; and where tasks have their own references and rows their own issues, no issue comes twice. -/
structure Partitioned (content : String) : Prop where
  groups : (texts.groupTasksByPhase content).flatMap (fun group => group.2.map fun task => (group.1, task)) =
    texts.phasedTasks content
  milestones : ∀ ensureMilestone taskRows,
    syncMilestones ensureMilestone taskRows (texts.groupTasksByPhase content) =
      (texts.phasedTasks content).filterMap fun task => (task.1.bind ensureMilestone).bind fun number =>
        (taskRows task.2.taskRef).map fun row => (row.externalIssueNumber, number)
  cards : ∀ (client : BoardClient) (taskRows : String → Option TaskRow), client.project.isSome →
    client.syncProjectBoard taskRows (texts.groupTasksByPhase content) =
      (texts.parseTasks content).filterMap fun task => (taskRows task.taskRef).bind client.card
  once : ∀ taskRows : String → Option TaskRow, ((texts.parseTasks content).map (·.taskRef)).Nodup →
    (∀ first second row other, taskRows first = .some row → taskRows second = .some other →
      row.externalIssueNumber = other.externalIssueNumber → first = second) →
    (((texts.groupTasksByPhase content).flatMap (·.2)).filterMap fun task =>
      (taskRows task.taskRef).map (·.externalIssueNumber)).Nodup

def PhasesFirst (content : String) : Prop :=
  ∀ phase ∈ findIter texts.phaseHeading content.toList, ∀ task ∈ findIter texts.taskHeading content.toList,
    phase.1.before.length < task.1.before.length

instance (content : String) : Decidable (texts.PhasesFirst content) :=
  inferInstanceAs (Decidable (∀ phase ∈ _, ∀ task ∈ _, _))

variable {texts} {cursor finish : Cursor} {length base : Nat}

theorem phaseHeading_opens (found : finish ∈ ends texts.phaseHeading cursor) :
    cursor.startsLine = true ∧ OpensSection cursor.ahead := by
  simp only [phaseHeading, Pattern.sequence, List.foldr_cons, List.foldr_nil] at found
  obtain ⟨_, starts, more⟩ := mem_ends_andThen.mp found
  obtain ⟨edge, rfl⟩ := mem_ends_lineStart.mp starts
  obtain ⟨_, marks, behind⟩ := mem_ends_andThen.mp more
  obtain ⟨rest, whole, rfl⟩ := mem_ends_literal_iff.mp marks
  obtain ⟨_, spaces, _⟩ := mem_ends_andThen.mp behind
  obtain ⟨read, tail, same, filled, white, rfl⟩ := mem_ends_some_iff.mp spaces
  obtain ⟨letter, read, rfl⟩ := List.exists_cons_of_ne_nil filled
  refine ⟨edge, letter, read ++ tail, ?_, white letter List.mem_cons_self⟩
  rw [whole, show rest = _ from same]
  rfl

def tasksIn (texts : Texts) (segments : List (Option String × List Char)) : List ParsedTask :=
  segments.flatMap fun segment => texts.parseTasks (String.ofList segment.2)

def groupsOf (texts : Texts) (segments : List (Option String × List Char)) : List (Option String × List ParsedTask) :=
  (segments.map fun segment => (segment.1, texts.parseTasks (String.ofList segment.2))).filter
    fun group => !group.2.isEmpty

theorem flatMap_groupsOf (segments : List (Option String × List Char)) :
    (texts.groupsOf segments).flatMap (·.2) = texts.tasksIn segments := by
  induction segments with
  | nil => rfl
  | cons segment rest ih =>
      simp only [groupsOf, List.map_cons, List.filter_cons, tasksIn, List.flatMap_cons] at ih ⊢
      split
      · rw [List.flatMap_cons, ih]
      · rename_i empty
        have none : texts.parseTasks (String.ofList segment.2) = [] := by simpa using empty
        rw [ih, none, List.nil_append]

def weight (base : Nat) (tasks : List ParsedTask) : Nat := (tasks.map (taskWeight base)).sum

theorem weight_parseTasks (base : Nat) (text : List Char) :
    weight base (texts.parseTasks (String.ofList text)) = weigh base (texts.scan [] text) := by
  rw [weight, weigh_parseTasks, String.toList_ofList]

theorem parseTasks_of_scan {text : List Char} (none : texts.scan [] text = []) :
    texts.parseTasks (String.ofList text) = [] := by
  rw [parseTasks_eq, String.toList_ofList, none, tasksOf]

structure Headings (length : Nat) (phases : List (Cursor × Cursor)) : Prop where
  placed : ∀ phase ∈ phases, phase.1.before.length + phase.1.ahead.length = length
  starts : ∀ phase ∈ phases, phase.1.startsLine = true
  opens : ∀ phase ∈ phases, OpensSection phase.1.ahead
  behind : phases.Pairwise fun first later =>
    ∃ passed, first.1.ahead = passed ++ later.1.ahead ∧ later.1.before = passed.reverse ++ first.1.before

theorem headings_find (texts : Texts) (text : List Char) : Headings text.length (findIter texts.phaseHeading text) where
  placed phase member := by
    obtain ⟨_, skipped, whole, behind⟩ := mem_search member
    have same : text = skipped ++ phase.1.ahead := whole
    rw [same, behind]
    simp
  starts phase member := (phaseHeading_opens (mem_search member).1).1
  opens phase member := (phaseHeading_opens (mem_search member).1).2
  behind := search_pairwise

theorem Headings.rest {heading : Cursor × Cursor} {rest : List (Cursor × Cursor)}
    (headings : Headings length (heading :: rest)) : Headings length rest where
  placed phase member := headings.placed phase (List.mem_cons_of_mem _ member)
  starts phase member := headings.starts phase (List.mem_cons_of_mem _ member)
  opens phase member := headings.opens phase (List.mem_cons_of_mem _ member)
  behind := (List.pairwise_cons.mp headings.behind).2

def LastOnly (texts : Texts) (text : List Char) (segments : List (Option String × List Char)) (last : Cursor × Cursor) : Prop :=
  texts.groupsOf segments = texts.groupsOf [(.some (phaseTitle last), last.1.ahead)] ∧
    texts.scan [] text = texts.scan [] last.1.ahead

def Weighs (texts : Texts) (base : Nat) (text : List Char) (segments : List (Option String × List Char))
    (phases : List (Cursor × Cursor)) : Prop :=
  weight base (texts.tasksIn segments) < weigh base (texts.scan [] text) ∧
    ∃ phase ∈ phases, ∃ cut ∈ texts.scan [] text, phase.1.ahead.length < cut.start.length

theorem LastOnly.weight {text : List Char} {segments : List (Option String × List Char)} {last : Cursor × Cursor}
    (only : LastOnly texts text segments last) (base : Nat) :
    weight base (texts.tasksIn segments) = weigh base (texts.scan [] text) := by
  rw [only.2, ← weight_parseTasks, ← flatMap_groupsOf, only.1, flatMap_groupsOf, tasksIn, List.flatMap_singleton]

theorem weighs_cons (standard : texts.Standard) (title : Option String) {own : List Char}
    {segments : List (Option String × List Char)} {heading last : Cursor × Cursor} {rest : List (Cursor × Cursor)}
    (section_ : OpensSection heading.1.ahead) (edge : own.reverse.head?.all (· = '\n') = true) (few : inkCount own < base)
    (later : LastOnly texts heading.1.ahead segments last ∨ Weighs texts base heading.1.ahead segments rest) :
    LastOnly texts (own ++ heading.1.ahead) ((title, own) :: segments) last ∨
      Weighs texts base (own ++ heading.1.ahead) ((title, own) :: segments) (heading :: rest) := by
  have total : weight base (texts.tasksIn ((title, own) :: segments)) =
      weigh base (texts.scan [] own) + weight base (texts.tasksIn segments) := by
    rw [tasksIn, List.flatMap_cons, weight, List.map_append, List.sum_append, ← weight_parseTasks]
    rfl
  rcases scan_cut standard section_ edge few with ⟨none, same⟩ | ⟨less, longer⟩
  · rcases later with only | ⟨weighs, phase, member, cut, found, before⟩
    · refine .inl ⟨?_, same.trans only.2⟩
      rw [← only.1, groupsOf, List.map_cons, parseTasks_of_scan none]
      rfl
    · refine .inr ⟨?_, phase, List.mem_cons_of_mem _ member, cut, by rwa [same], before⟩
      rw [total, none, same, weigh]
      omega
  · refine .inr ⟨?_, heading, List.mem_cons_self, longer⟩
    have below : weight base (texts.tasksIn segments) ≤ weigh base (texts.scan [] heading.1.ahead) := by
      rcases later with only | ⟨weighs, _⟩
      · exact (only.weight base).le
      · exact weighs.le
    rw [total]
    omega

theorem segments_weigh (standard : texts.Standard) {heading : Cursor × Cursor} {rest : List (Cursor × Cursor)}
    (headings : Headings length (heading :: rest)) (few : inkCount heading.1.ahead < base) :
    LastOnly texts heading.1.ahead (phaseSegments length (heading :: rest)) (rest.getLastD heading) ∨
      Weighs texts base heading.1.ahead (phaseSegments length (heading :: rest)) rest := by
  induction rest generalizing heading with
  | nil =>
      have placed := headings.placed heading List.mem_cons_self
      have whole : heading.1.ahead.take (length - heading.1.before.length) = heading.1.ahead :=
        List.take_of_length_le (by omega)
      refine .inl ⟨?_, rfl⟩
      rw [phaseSegments, phaseSegments, List.head?_nil, Option.map_none, Option.getD_none, whole]
      rfl
  | cons next rest ih =>
      obtain ⟨ahead, _⟩ := List.pairwise_cons.mp headings.behind
      obtain ⟨own, whole, behind⟩ := ahead next List.mem_cons_self
      have segment : heading.1.ahead.take (next.1.before.length - heading.1.before.length) = own := by
        rw [whole, behind, List.length_append, List.length_reverse, Nat.add_sub_cancel, List.take_left]
      have edge : own.reverse.head?.all (· = '\n') = true := by
        have starts := headings.starts next (List.mem_cons_of_mem _ List.mem_cons_self)
        rw [Cursor.startsLine, behind] at starts
        cases reversed : own.reverse with
        | nil => rfl
        | cons letter others => rwa [reversed] at starts
      have later := ih headings.rest
        ((inkCount_suffix ⟨own, whole.symm⟩).trans_lt few)
      have opens := headings.opens next (List.mem_cons_of_mem _ List.mem_cons_self)
      have small : inkCount own < base := by
        rw [whole, inkCount_append] at few
        omega
      have both := weighs_cons standard (.some (phaseTitle heading)) opens edge small later
      rw [← whole] at both
      rw [phaseSegments, List.head?_cons, Option.map_some, Option.getD_some, segment]
      simpa only [List.getLastD_cons] using both

def segmentsOf (text : List Char) (heading : Cursor × Cursor) (rest : List (Cursor × Cursor)) :
    List (Option String × List Char) :=
  let start := heading.1.before.length
  let front := if 0 < start then [(none, text.take start)] else []
  front ++ phaseSegments text.length (heading :: rest)

theorem document_weighs (standard : texts.Standard) {text : List Char} {heading : Cursor × Cursor}
    {rest : List (Cursor × Cursor)} (found : findIter texts.phaseHeading text = heading :: rest)
    (few : inkCount text < base) :
    LastOnly texts text (segmentsOf text heading rest) (rest.getLastD heading) ∨
      Weighs texts base text (segmentsOf text heading rest) (heading :: rest) := by
  have headings := headings_find texts text
  rw [found] at headings
  have member : (heading.1, heading.2) ∈ findIter texts.phaseHeading text := by
    rw [found]
    exact List.mem_cons_self
  obtain ⟨_, own, whole, behind⟩ := mem_search member
  have text_ : text = own ++ heading.1.ahead := whole
  have place : heading.1.before = own.reverse := behind.trans (List.append_nil _)
  have later := segments_weigh standard headings ((inkCount_suffix ⟨own, text_.symm⟩).trans_lt few)
  cases own with
  | nil =>
      obtain rfl : text = heading.1.ahead := text_
      have first : ¬0 < heading.1.before.length := by simp [place]
      simp only [segmentsOf, if_neg first, List.nil_append]
      refine later.imp_right ?_
      rintro ⟨less, phase, inside, longer⟩
      exact ⟨less, phase, List.mem_cons_of_mem _ inside, longer⟩
  | cons letter own =>
      have behind_ : 0 < heading.1.before.length := by simp [place]
      have front : text.take heading.1.before.length = letter :: own := by
        rw [text_, place, List.length_reverse, List.take_left]
      have edge : (letter :: own).reverse.head?.all (· = '\n') = true := by
        rw [← place]
        exact headings.starts heading List.mem_cons_self
      have small : inkCount (letter :: own) < base := by
        rw [text_, inkCount_append] at few
        omega
      have both := weighs_cons standard none (headings.opens heading List.mem_cons_self) edge small later
      rw [← text_] at both
      simp only [segmentsOf, if_pos behind_, front]
      exact both

theorem groupTasksByPhase_eq {content : String} {heading : Cursor × Cursor} {rest : List (Cursor × Cursor)}
    (found : findIter texts.phaseHeading content.toList = heading :: rest) :
    texts.groupTasksByPhase content = texts.groupsOf (segmentsOf content.toList heading rest) := by
  rw [groupTasksByPhase, found]
  rfl

theorem length_tasksOf (seen : List String) (cuts : List TaskCut) : (texts.tasksOf seen cuts).length = cuts.length := by
  induction cuts generalizing seen with
  | nil => rfl
  | cons cut rest ih => rw [tasksOf, List.length_cons, List.length_cons, ih]

theorem length_parseTasks (texts : Texts) (content : String) :
    (texts.parseTasks content).length = (findIter texts.taskHeading content.toList).length := by
  rw [parseTasks_eq, length_tasksOf, scan, List.length_map, findIter]

theorem phasedTasks_snd (texts : Texts) (content : String) : (texts.phasedTasks content).map (·.2) = texts.parseTasks content := by
  rw [phasedTasks, List.map_snd_zip]
  rw [List.length_map, length_parseTasks]

theorem phasedTasks_of {content : String} {title : Option String}
    (same : ∀ task ∈ findIter texts.taskHeading content.toList,
      nearestPhase (findIter texts.phaseHeading content.toList) task.1.before.length = title) :
    texts.phasedTasks content = (texts.parseTasks content).map fun task => (title, task) := by
  have labels : (findIter texts.taskHeading content.toList).map (fun heading =>
      nearestPhase (findIter texts.phaseHeading content.toList) heading.1.before.length) =
      List.replicate (texts.parseTasks content).length title := by
    rw [length_parseTasks]
    refine List.eq_replicate_iff.mpr ⟨List.length_map _, fun label member => ?_⟩
    obtain ⟨task, inside, rfl⟩ := List.mem_map.mp member
    exact same task inside
  rw [phasedTasks, labels]
  generalize texts.parseTasks content = tasks
  induction tasks with
  | nil => rfl
  | cons task rest ih => simp [List.replicate_succ, ih]

theorem flatMap_snd (groups : List (Option String × List ParsedTask)) :
    (groups.flatMap fun group => group.2.map fun task => (group.1, task)).map (·.2) = groups.flatMap (·.2) := by
  simp [List.map_flatMap, Function.comp_def]

theorem syncMilestones_eq (ensureMilestone : String → Option Nat) (taskRows : String → Option TaskRow)
    (groups : List (Option String × List ParsedTask)) : syncMilestones ensureMilestone taskRows groups =
      (groups.flatMap fun group => group.2.map fun task => (group.1, task)).filterMap fun task =>
        (task.1.bind ensureMilestone).bind fun number =>
          (taskRows task.2.taskRef).map fun row => (row.externalIssueNumber, number) := by
  rw [syncMilestones, List.filterMap_flatMap]
  refine List.flatMap_congr fun group _ => ?_
  rw [List.filterMap_map]
  cases found : group.1.bind ensureMilestone with
  | none => simp [found]
  | some number => simp [found]

theorem partitioned_of_groups {content : String}
    (groups : (texts.groupTasksByPhase content).flatMap (fun group => group.2.map fun task => (group.1, task)) =
      texts.phasedTasks content) : texts.Partitioned content := by
  have tasks : (texts.groupTasksByPhase content).flatMap (·.2) = texts.parseTasks content := by
    rw [← flatMap_snd, groups, phasedTasks_snd]
  refine ⟨groups, fun ensureMilestone taskRows => ?_, fun client taskRows project => ?_, fun taskRows own issues => ?_⟩
  · rw [syncMilestones_eq, groups]
  · rw [← tasks, BoardClient.syncProjectBoard, if_neg (by simpa [Option.isSome_iff_ne_none] using project), List.filterMap_flatMap]
  · rw [tasks]
    have references : (texts.parseTasks content).filterMap (fun task =>
        (taskRows task.taskRef).map (·.externalIssueNumber)) =
        ((texts.parseTasks content).map (·.taskRef)).filterMap fun ref =>
          (taskRows ref).map (·.externalIssueNumber) := by
      rw [List.filterMap_map]
      rfl
    rw [references]
    refine List.Nodup.filterMap (fun first second issue here there => ?_) own
    obtain ⟨row, one, same⟩ := Option.map_eq_some_iff.mp here
    obtain ⟨other, two, also⟩ := Option.map_eq_some_iff.mp there
    exact issues first second row other one two (same.trans also.symm)

theorem getLastD_split (heading : Cursor × Cursor) (rest : List (Cursor × Cursor)) :
    ∃ front, heading :: rest = front ++ [rest.getLastD heading] := by
  induction rest generalizing heading with
  | nil => exact ⟨[], rfl⟩
  | cons next rest ih =>
      obtain ⟨front, same⟩ := ih next
      exact ⟨heading :: front, by rw [List.getLastD_cons, List.cons_append, ← same]⟩

theorem Headings.last {heading phase : Cursor × Cursor} {rest : List (Cursor × Cursor)}
    (headings : Headings length (heading :: rest)) (member : phase ∈ heading :: rest) :
    (rest.getLastD heading).1.ahead.length ≤ phase.1.ahead.length := by
  obtain ⟨front, split⟩ := getLastD_split heading rest
  have behind := headings.behind
  rw [split] at member behind
  rcases List.mem_append.mp member with before | last
  · obtain ⟨passed, whole, _⟩ := (List.pairwise_append.mp behind).2.2 phase before _ (List.mem_singleton_self _)
    rw [whole, List.length_append]
    omega
  · rw [List.mem_singleton.mp last]

theorem placed_taskHeading {text : List Char} {task : Cursor × Cursor} (member : task ∈ findIter texts.taskHeading text) :
    task.1.before.length + task.1.ahead.length = text.length :=
  (search_placed (Nat.zero_add _) member).1

/-- The groups partition the tasks of the document exactly if no phase heading stands behind a task heading. -/
theorem partitioned_iff (standard : texts.Standard) (content : String) :
    texts.Partitioned content ↔ texts.PhasesFirst content := by
  cases found : findIter texts.phaseHeading content.toList with
  | nil =>
      refine iff_of_true (partitioned_of_groups ?_) fun phase member => ?_
      · have labels := @phasedTasks_of texts content none fun task _ => by rw [found]; rfl
        rw [labels, groupTasksByPhase, found]
        cases texts.parseTasks content <;> simp
      · rw [found] at member
        contradiction
  | cons heading rest =>
      have headings := headings_find texts content.toList
      rw [found] at headings
      have document := document_weighs standard found (Nat.lt_succ_self (inkCount content.toList))
      constructor
      · intro partitioned phase member task inside
        rw [found] at member
        have tasks : texts.tasksIn (segmentsOf content.toList heading rest) = texts.parseTasks content := by
          rw [← flatMap_groupsOf, ← groupTasksByPhase_eq found, ← flatMap_snd, partitioned.groups, phasedTasks_snd]
        rcases document with ⟨_, same⟩ | ⟨less, _⟩
        · have cut : cutOf task ∈ texts.scan [] content.toList := List.mem_map_of_mem inside
          rw [same] at cut
          obtain ⟨front, split⟩ := getLastD_split heading rest
          have opens := headings.opens (rest.getLastD heading) (by rw [split]; simp)
          have short := (scan_section_start opens cut).length_le
          have filled : 0 < (rest.getLastD heading).1.ahead.length := by
            obtain ⟨_, _, whole, _⟩ := opens
            rw [whole]
            exact Nat.zero_lt_succ _
          have behind := headings.last member
          have here := headings.placed phase member
          have there := placed_taskHeading inside
          rw [List.length_tail] at short
          change task.1.ahead.length ≤ _ at short
          omega
        · rw [tasks, weight, weigh_parseTasks] at less
          exact absurd less (Nat.lt_irrefl _)
      · intro first
        rcases document with ⟨groups, same⟩ | ⟨_, phase, member, cut, inside, longer⟩
        · have tasks : texts.parseTasks (String.ofList (rest.getLastD heading).1.ahead) = texts.parseTasks content := by
            rw [parseTasks_eq, parseTasks_eq, same, String.toList_ofList]
          have labels := @phasedTasks_of texts content (.some (phaseTitle (rest.getLastD heading))) fun task inside => by
            have all : (heading :: rest).filter (fun phase => phase.1.before.length < task.1.before.length) =
                heading :: rest := by
              refine List.filter_eq_self.mpr fun phase member => decide_eq_true ?_
              rw [← found] at member
              exact first phase member task inside
            obtain ⟨front, split⟩ := getLastD_split heading rest
            rw [nearestPhase, found, all, split, List.getLast?_concat]
            rfl
          refine partitioned_of_groups ?_
          rw [labels, groupTasksByPhase_eq found, groups, groupsOf, List.map_singleton, tasks]
          cases texts.parseTasks content <;> simp
        · obtain ⟨task, found', rfl⟩ := List.mem_map.mp inside
          have before := first phase (found ▸ member) task found'
          have here := headings.placed phase member
          have there := placed_taskHeading (show task ∈ findIter texts.taskHeading content.toList from found')
          change phase.1.ahead.length < task.1.ahead.length at longer
          omega

end Texts

theorem phases_split_tasks : ¬sampleTexts.Partitioned "## Phase 1: A\n### T-001: X\nB\n## Phase 2: C\n### T-002: X\nD" := by
  intro partitioned
  have groups := partitioned.groups
  revert groups
  decide +kernel

theorem partitioned_iff_sample : sampleTexts.Standard ∧
    (sampleTexts.Partitioned "## Phase 1: A\n### T-001: X\n### T-002: X" ↔
      sampleTexts.PhasesFirst "## Phase 1: A\n### T-001: X\n### T-002: X") :=
  ⟨sampleTexts_standard, Texts.partitioned_iff sampleTexts_standard _⟩

end Thought2Build.Integrations
