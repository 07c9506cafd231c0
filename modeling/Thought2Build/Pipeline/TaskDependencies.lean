import Thought2Build.Integrations.TaskHeadings
import Thought2Build.Library.PatternPlaces
import Thought2Build.Pipeline.TaskDependenciesCore

/-!
Circular dependencies between tasks. The peel reports them exactly, but the reader of the fields does not see a field
in the layout that the prompt wants, so that in this layout nothing is reported.
-/

namespace Thought2Build.Pipeline

open Patterns Pattern Dictionaries Peeling
open Integrations (Texts sampleTexts)
open Integrations.Texts (splitlines stretch_unique)

section Peel

variable {adjacency : List (Nat × List Nat)}

abbrev defined (adjacency : List (Nat × List Nat)) : Finset Nat := (adjacency.map (·.1)).toFinset

structure WellFormed (adjacency : List (Nat × List Nat)) : Prop where
  keys : (adjacency.map (·.1)).Nodup
  deps : ∀ entry ∈ adjacency, entry.2.Nodup

theorem WellFormed.edges_nodup (formed : WellFormed adjacency) (num : Nat) : (definedEdges adjacency num).Nodup := by
  refine List.Nodup.filter _ ?_
  cases found : adjacency.lookup num with
  | none => exact List.nodup_nil
  | some deps => exact formed.deps _ (mem_of_lookup found)

theorem definedEdges_closed {num dep : Nat} (edge : dep ∈ definedEdges adjacency num) : dep ∈ defined adjacency :=
  List.mem_toFinset.mpr (of_decide_eq_true (List.mem_filter.mp edge).2)

theorem count_edges {nums : List Nat} {edges : Nat → List Nat} (unique : ∀ num, (edges num).Nodup) (dep : Nat) :
    (nums.flatMap edges).count dep = (nums.filter fun num => dep ∈ edges num).length := by
  induction nums with
  | nil => rfl
  | cons num nums ih =>
      rw [List.flatMap_cons, List.count_append, ih, List.filter_cons]
      by_cases edge : dep ∈ edges num
      · rw [List.count_eq_one_of_mem (unique num) edge, if_pos (by simpa using edge), List.length_cons, Nat.add_comm]
      · rw [List.count_eq_zero_of_not_mem edge, if_neg (by simpa using edge), Nat.zero_add]

theorem WellFormed.starts (formed : WellFormed adjacency) :
    Starts (defined adjacency) (definedEdges adjacency) (startPeel adjacency) where
  fresh := List.nodup_reverse.mpr (formed.keys.filter _)
  waits num := by simp [startPeel]
  degree num _ := by
    have counted : sources (defined adjacency) (definedEdges adjacency) num =
        ((adjacency.map (·.1)).filter fun source => num ∈ definedEdges adjacency source).toFinset := by
      ext source
      simp [mem_sources]
    rw [counted, List.toFinset_card_of_nodup (formed.keys.filter _), ← count_edges formed.edges_nodup]
    rfl
  removed := rfl

theorem WellFormed.issues (formed : WellFormed adjacency) :
    taskDependencyCycleIssues adjacency ≠ [] ↔ ∃ num, OnCycle (defined adjacency) (definedEdges adjacency) num := by
  have card : (defined adjacency).card = (adjacency.map (·.1)).length := List.toFinset_card_of_nodup formed.keys
  obtain ⟨all, _⟩ := formed.starts.run (fun num _ => formed.edges_nodup num)
    fun _ _ _ edge => definedEdges_closed edge
  rw [card] at all
  rw [← not_iff_not, ← all, not_not, taskDependencyCycleIssues]
  dsimp only
  split
  · rename_i removed
    exact ⟨fun _ => removed, fun _ => rfl⟩
  · rename_i fewer
    exact ⟨fun none => absurd none (List.cons_ne_nil _ _), fun removed => absurd removed fewer⟩

theorem WellFormed.named (formed : WellFormed adjacency) {issue : CompletenessIssue}
    (reported : issue ∈ taskDependencyCycleIssues adjacency) :
    ∃ nums : List Nat, issue.reference = .some (taskRefs (nums.take 10)) ∧
      ∀ num, OnCycle (defined adjacency) (definedEdges adjacency) num → num ∈ nums := by
  have card : (defined adjacency).card = (adjacency.map (·.1)).length := List.toFinset_card_of_nodup formed.keys
  obtain ⟨_, stays⟩ := formed.starts.run (fun num _ => formed.edges_nodup num)
    fun _ _ _ edge => definedEdges_closed edge
  rw [card] at stays
  rw [taskDependencyCycleIssues] at reported
  dsimp only at reported
  split at reported
  · exact absurd reported List.not_mem_nil
  · rw [List.mem_singleton.mp reported]
    refine ⟨_, rfl, fun num cycle => ?_⟩
    obtain ⟨inside, positive⟩ := stays num cycle
    rw [List.mem_insertionSort, List.mem_filter]
    exact ⟨List.mem_toFinset.mp inside, by simpa using positive⟩

end Peel

section Fields

variable {line block : DocText}

theorem mem_taskField {finish : Cursor} (found : finish ∈ ends taskField { ahead := line }) :
    ∃ field rest value, line = "**".toList ++ (field ++ (":**".toList ++ rest)) ∧ (∀ letter ∈ field, letter ≠ '*') ∧
      finish.groups = [value, field] := by
  simp only [taskField, Pattern.sequence, List.foldr_cons, List.foldr_nil, mem_ends_andThen, mem_ends_lineStart,
    mem_ends_literal_iff, mem_ends_some_iff, mem_ends_many_iff, mem_ends_group_iff, mem_ends_textEnd,
    mem_ends_nothing] at found
  obtain ⟨_, ⟨_, rfl⟩, _, ⟨_, whole, rfl⟩, _, ⟨_, ⟨field, _, more, _, plain, rfl⟩, rfl⟩, _, ⟨rest, colon, rfl⟩, _,
    ⟨_, _, _, _, rfl⟩, _, ⟨_, ⟨value, _, _, _, rfl⟩, rfl⟩, _, ⟨_, rfl⟩, rfl⟩ := found
  simp only [Cursor.skip_ahead] at more colon
  have opens : line = "**".toList ++ _ := whole
  refine ⟨field, rest, _, by rw [opens, more, colon], ?_, by rw [Cursor.read_skip]; rfl⟩
  intro letter member
  exact of_decide_eq_true (plain letter member)

theorem fieldOf_some {field : DocText × DocText} (found : fieldOf line = some field) :
    ∃ name rest, line.strip = "**".toList ++ (name ++ (":**".toList ++ rest)) ∧ (∀ letter ∈ name, letter ≠ '*') ∧
      field.1 = name.strip := by
  obtain ⟨finish, matched, groups⟩ := Option.bind_eq_some_iff.mp found
  obtain ⟨name, rest, value, whole, plain, same⟩ := mem_taskField (List.mem_of_head? matched)
  rw [same] at groups
  obtain rfl := Option.some.inj groups
  exact ⟨name, rest, whole, plain, rfl⟩

theorem fieldOf_name {inner rest : DocText} {field : DocText × DocText} (plain : ∀ letter ∈ inner, letter ≠ '*')
    (text : line.strip = "**".toList ++ (inner ++ '*' :: rest)) (found : fieldOf line = some field) :
    ∃ name, inner = name ++ [':'] ∧ field.1 = DocText.strip name := by
  obtain ⟨name, tail, whole, bare, same⟩ := fieldOf_some found
  refine ⟨name, ?_, same⟩
  have colon : ":**".toList = [':'] ++ ['*', '*'] := by decide
  have both := List.append_cancel_left (text.symm.trans whole)
  rw [colon, List.append_assoc, ← List.append_assoc name] at both
  have inside : ∀ letter ∈ name ++ [':'], letter ≠ '*' := by
    intro letter member
    rcases List.mem_append.mp member with named | last
    · exact bare letter named
    · rw [List.mem_singleton.mp last]
      decide
  exact (@stretch_unique (· ≠ '*') inner (name ++ [':']) rest ('*' :: tail) '*' '*' (by simpa using plain)
    (by simpa using inside) (by decide) (by decide) both).1

theorem inline_name {name : String} (member : .inline name ∈ mandatedMarks) :
    (∀ letter ∈ name.toList, letter ≠ '*') ∧
      lower (DocText.strip name.toList) ≠ lower "Dependencies".toList := by
  simp only [mandatedMarks, List.mem_cons, FieldMark.inline.injEq, reduceCtorEq, or_false, List.not_mem_nil] at member
  rw [← List.forall_iff_forall_mem]
  rcases member with rfl | rfl | rfl | rfl | rfl | rfl <;> decide

theorem label_name {name : String} (member : .label name ∈ mandatedMarks) :
    (∀ letter ∈ name.toList, letter ≠ '*') ∧ ':' ∉ name.toList := by
  simp only [mandatedMarks, List.mem_cons, FieldMark.label.injEq, reduceCtorEq, false_or, or_false,
    List.not_mem_nil] at member
  rw [← List.forall_iff_forall_mem]
  rcases member with rfl | rfl | rfl <;> decide

theorem FieldMark.not_dependencies {mark : FieldMark} (member : mark ∈ mandatedMarks) (meets : mark.meets line)
    {field : DocText × DocText} (found : fieldOf line = some field) :
    lower field.1 ≠ lower "Dependencies".toList := by
  cases mark with
  | inline name =>
      obtain ⟨plain, other⟩ := inline_name member
      obtain ⟨rest, text⟩ := List.isPrefixOf_iff_prefix.mp meets
      have letters : ":**".toList = [':', '*', '*'] := by decide
      have inside : ∀ letter ∈ name.toList ++ [':'], letter ≠ '*' := by
        intro letter member
        rcases List.mem_append.mp member with named | last
        · exact plain letter named
        · rw [List.mem_singleton.mp last]
          decide
      obtain ⟨read, same, is⟩ := @fieldOf_name line (name.toList ++ [':']) ('*' :: rest) field inside
        (by simp [← text, letters]) found
      obtain rfl := List.append_cancel_right same
      rwa [is]
  | label name =>
      obtain ⟨plain, noColon⟩ := label_name member
      have text := of_decide_eq_true meets
      have letters : "**".toList = ['*', '*'] := by decide
      obtain ⟨read, same, _⟩ := @fieldOf_name line name.toList ['*'] field plain (by simp [text, letters]) found
      rw [same] at noColon
      simp at noColon

theorem Mandated.no_dependencies (mandated : Mandated block) : taskFieldValue block "Dependencies" = none := by
  obtain ⟨nine, meets⟩ := mandated
  refine List.findSome?_eq_none_iff.mpr fun line member => ?_
  cases found : fieldOf line with
  | none => rfl
  | some field =>
      refine if_neg ?_
      obtain ⟨_, _, text, _, _⟩ := fieldOf_some found
      have marked : isMarked line = true := List.isPrefixOf_iff_prefix.mpr ⟨_, text.symm⟩
      have listed : line ∈ (((splitlines [] block).filter isMarked).zip mandatedMarks).map (·.1) := by
        rw [List.map_fst_zip nine.le]
        exact List.mem_filter.mpr ⟨member, marked⟩
      obtain ⟨pair, paired, rfl⟩ := List.mem_map.mp listed
      exact FieldMark.not_dependencies (List.of_mem_zip paired).2 (meets pair paired) found

end Fields

section Documents

variable {texts : Texts} {artifactMd : DocText}

theorem depAdjacency_mandated (mandated : ∀ block ∈ taskBlocks texts artifactMd, Mandated block.2) :
    WellFormed (depAdjacency texts artifactMd) ∧ ∀ entry ∈ depAdjacency texts artifactMd, entry.2 = [] := by
  have folds : ∀ (blocks : List (Nat × DocText)) (adjacency : List (Nat × List Nat)),
      (∀ block ∈ blocks, Mandated block.2) → (adjacency.map (·.1)).Nodup → (∀ entry ∈ adjacency, entry.2 = []) →
      ((blocks.foldl (putDeps texts) adjacency).map (·.1)).Nodup ∧
        ∀ entry ∈ blocks.foldl (putDeps texts) adjacency, entry.2 = [] := by
    intro blocks
    induction blocks with
    | nil => exact fun _ _ keys empty => ⟨keys, empty⟩
    | cons block blocks ih =>
        intro adjacency mandated keys empty
        obtain ⟨now, later⟩ := List.forall_mem_cons.mp mandated
        refine ih _ later (nodup_put keys _ _) fun entry member => ?_
        rw [putDeps, now.no_dependencies] at member
        rcases mem_put member with rfl | old
        · rfl
        · exact empty entry old
  obtain ⟨keys, empty⟩ := folds _ [] mandated List.nodup_nil (by simp)
  refine ⟨⟨keys, fun entry member => ?_⟩, empty⟩
  rw [empty entry member]
  exact List.nodup_nil

theorem dependencyIssues_mandated (mandated : ∀ block ∈ taskBlocks texts artifactMd, Mandated block.2) :
    dependencyIssues texts artifactMd = [] := by
  obtain ⟨formed, empty⟩ := depAdjacency_mandated mandated
  by_contra reported
  obtain ⟨num, cycle⟩ := formed.issues.mp reported
  obtain ⟨dep, ⟨_, edge⟩, _⟩ := Relation.TransGen.head'_iff.mp cycle
  cases found : (depAdjacency texts artifactMd).lookup num with
  | none => simp [definedEdges, found] at edge
  | some deps =>
      obtain rfl := empty _ (mem_of_lookup found)
      simp [definedEdges, found] at edge

end Documents

/-- In the layout of the prompt the check does what it should if and only if there is no circular dependency. -/
theorem finds_cycles_iff (texts : Texts) (artifactMd : DocText)
    (mandated : ∀ block ∈ taskBlocks texts artifactMd, Mandated block.2) :
    FindsCycles texts artifactMd ↔ ¬∃ num, Circular texts artifactMd num := by
  have silent := dependencyIssues_mandated mandated
  constructor
  · intro finds cycle
    obtain ⟨issue, member, _⟩ := finds.reported.mpr cycle
    rw [silent] at member
    exact absurd member List.not_mem_nil
  · intro acyclic
    refine ⟨⟨?_, fun cycle => absurd cycle acyclic⟩, ?_⟩
    · rintro ⟨issue, member, _⟩
      rw [silent] at member
      exact absurd member List.not_mem_nil
    · intro issue member
      rw [silent] at member
      exact absurd member List.not_mem_nil

def sampleTasks : DocText := .ofParts [
  "### T-001: A\n**Phase:** B\n**Spec refs:** C\n**Plan refs:** D\n**Harness refs:** E\n**Priority:** MUST\n",
  "**Estimate:** S\n\n**Steps**\n1. F\n\n**Acceptance Criteria**\n1. G\n\n**Dependencies**\nT-002\n\n",
  "### T-002: A\n**Phase:** B\n**Spec refs:** C\n**Plan refs:** D\n**Harness refs:** E\n**Priority:** MUST\n",
  "**Estimate:** S\n\n**Steps**\n1. F\n\n**Acceptance Criteria**\n1. G\n\n**Dependencies**\nT-001\n\n"]

set_option maxRecDepth 4000 in
theorem sampleTasks_spec : (∀ block ∈ taskBlocks sampleTexts sampleTasks, Mandated block.2) ∧
    DependsOn sampleTexts sampleTasks 1 2 ∧ DependsOn sampleTexts sampleTasks 2 1 := by
  have letters : sampleTasks = List.flatten _ := DocText.ofParts_letters [_, _, _, _]
  rw [letters]
  decide +kernel

theorem finds_cycles_iff_sample :
    FindsCycles sampleTexts sampleTasks ↔ ¬∃ num, Circular sampleTexts sampleTasks num :=
  finds_cycles_iff sampleTexts sampleTasks sampleTasks_spec.1

theorem mutual_dependency_not_found :
    (∀ block ∈ taskBlocks sampleTexts sampleTasks, Mandated block.2) ∧ ¬FindsCycles sampleTexts sampleTasks := by
  obtain ⟨mandated, forth, back⟩ := sampleTasks_spec
  refine ⟨mandated, fun finds => ?_⟩
  have cycle : Circular sampleTexts sampleTasks 1 := Relation.TransGen.tail (Relation.TransGen.single forth) back
  obtain ⟨issue, member, _⟩ := finds.reported.mpr ⟨1, cycle⟩
  rw [dependencyIssues_mandated mandated] at member
  exact absurd member List.not_mem_nil

end Thought2Build.Pipeline
