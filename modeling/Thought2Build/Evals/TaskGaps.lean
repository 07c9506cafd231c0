import Thought2Build.Evals.RequirementCoverage
import Thought2Build.Evals.TaskGapsCore
import Thought2Build.Pipeline.HarnessIndex

/-!
The gaps that a TASKS document has against its harness. A reference is looked up by its whole, by its last two parts
and by its last part, wherever the harness has them; what is not found, and is not deferred, is reported once a task.
-/

namespace Thought2Build.Evals

open Pipeline
open Integrations (Texts sampleTexts)

variable {texts : Texts} {cases : LetterCases} {index first second : HarnessTestIndex} {ref : DocText}
  {tasksContent harnessContent : DocText}

structure Registered (index : HarnessTestIndex) : Prop where
  tests : index.testNames ⊆ index.knownRefs
  inFiles : ∀ pair ∈ index.testsInFile, pair.2 ∈ index.knownRefs
  files : index.knownFiles ⊆ index.knownRefs
  named : [] ∉ index.knownFiles

theorem Registered.empty : Registered {} :=
  ⟨subset_rfl, fun _ member => absurd member (Finset.notMem_empty _), subset_rfl, Finset.notMem_empty _⟩

theorem Registered.union (one : Registered first) (two : Registered second) : Registered (first ∪ second) where
  tests := Finset.union_subset_union one.tests two.tests
  inFiles pair member := by
    rw [HarnessTestIndex.union_def] at member ⊢
    rcases Finset.mem_union.mp member with left | right
    · exact Finset.mem_union_left _ (one.inFiles pair left)
    · exact Finset.mem_union_right _ (two.inFiles pair right)
  files := Finset.union_subset_union one.files two.files
  named member := (Finset.mem_union.mp member).elim one.named two.named

variable {scan : Scan} {line : DocText}

theorem registered_register (name : DocText) (scope : Option DocText) (scopeQualified isTest : Bool) :
    Registered (scan.register name scope scopeQualified isTest) := by
  have known : name ∈ (scan.register name scope scopeQualified isTest).knownRefs :=
    Finset.mem_union_left _ (Finset.mem_union_left _ (Finset.mem_singleton_self _))
  refine ⟨?_, fun pair member => ?_, Finset.empty_subset _, Finset.notMem_empty _⟩
  · simp only [Scan.register]
    split
    · exact Finset.singleton_subset_iff.mpr known
    · exact Finset.empty_subset _
  · simp only [Scan.register] at member
    split at member
    · obtain ⟨_, _, rfl⟩ := Finset.mem_image.mp member
      exact known
    · exact absurd member (Finset.notMem_empty _)

theorem registered_registerAll (names scope : Option DocText) (scopeQualified isTest : Bool) :
    Registered (scan.registerAll names scope scopeQualified isTest) := by
  cases names with
  | none => exact Registered.empty
  | some name => exact registered_register _ _ _ _

theorem registered_readCode : Registered (scan.readCode texts line).2 :=
  ((((registered_registerAll _ _ _ _).union (registered_registerAll _ _ _ _)).union
    (registered_registerAll _ _ _ _)).union (registered_registerAll _ _ _ _)).union (registered_registerAll _ _ _ _)

theorem Registered.onlyBody (files : Finset DocText) : Registered { filesWithBody := files } :=
  ⟨subset_rfl, fun _ member => absurd member (Finset.notMem_empty _), subset_rfl, Finset.notMem_empty _⟩

theorem registered_readLine : Registered (scan.readLine texts line).2 := by
  rw [Scan.readLine]
  split
  · refine ⟨?_, ?_, ?_, ?_⟩ <;> dsimp only
    · exact Finset.empty_subset _
    · exact fun _ member => absurd member (Finset.notMem_empty _)
    · exact Finset.subset_union_right
    · simp [Scan.file, truthy, Option.mem_toFinset, Option.mem_def, Option.filter_eq_some_iff]
  · split
    · split
      · exact Registered.empty
      · split
        · exact Registered.empty
        · exact Registered.empty
    · split
      · exact Registered.empty
      · dsimp only
        split
        · exact Registered.onlyBody _
        · exact (Registered.onlyBody _).union registered_readCode

theorem registered_readLines (lines : List DocText) : Registered (scan.readLines texts lines) := by
  induction lines generalizing scan with
  | nil => exact Registered.empty
  | cons line lines ih => exact registered_readLine.union ih

theorem registered_index (texts : Texts) (harnessContent : DocText) :
    Registered (harnessTestIndex texts harnessContent) := registered_readLines _

def lastPart (ref : DocText) : DocText := (DocText.splitScopes (normaliseHarnessRef ref)).getLastD []

structure Absent (texts : Texts) (index : HarnessTestIndex) (ref : DocText) : Prop where
  whole : normaliseHarnessRef ref ∉ index.knownRefs
  test : lastPart ref ∉ index.testNames
  inFile : ∀ file, (file, lastPart ref) ∉ index.testsInFile
  file : (DocText.splitScopes (normaliseHarnessRef ref)).length = 1 →
    canonicalTestPath texts (normaliseHarnessRef ref) ∉ index.knownFiles

structure Unregistered (texts : Texts) (index : HarnessTestIndex) (ref : DocText) : Prop where
  whole : normaliseHarnessRef ref ∉ index.knownRefs
  lastTwo : let parts := DocText.splitScopes (normaliseHarnessRef ref)
    2 ≤ parts.length → DocText.joinScopes (parts.drop (parts.length - 2)) ∉ index.knownRefs
  last : lastPart ref ∉ index.knownRefs
  file : (DocText.splitScopes (normaliseHarnessRef ref)).length = 1 →
    canonicalTestPath texts (normaliseHarnessRef ref) ∈ index.knownRefs → canonicalTestPath texts (normaliseHarnessRef ref) = []

/-- What the validation takes for a gap: the reference is not registered, no category of its file is deferred, and the
tests of its file, if there is such a file, have been read. -/
structure Missing (texts : Texts) (cases : LetterCases) (harnessContent ref : DocText) : Prop where
  unregistered : Unregistered texts (harnessTestIndex texts harnessContent) ref
  notDeferred : refInDroppedCategory cases ref (extractDroppedCategories texts cases harnessContent) = false
  evidence : canonicalTestPath texts ref ∉ (harnessTestIndex texts harnessContent).knownFiles ∨
    canonicalTestPath texts ref ∈ (harnessTestIndex texts harnessContent).filesWithTests ∨
      canonicalTestPath texts ref ∉ (harnessTestIndex texts harnessContent).filesWithBody ∨
        (ascii ".py").isSuffixOf (canonicalTestPath texts ref) = true

theorem unmatched_iff : refMatchesHarness texts ref index.knownRefs = false ↔ Unregistered texts index ref := by
  rw [refMatchesHarness]
  dsimp only
  constructor
  · intro unmatched
    have whole : normaliseHarnessRef ref ∉ index.knownRefs := by
      intro member
      rw [if_pos member] at unmatched
      exact Bool.noConfusion unmatched
    rw [if_neg whole] at unmatched
    split at unmatched
    · exact Bool.noConfusion unmatched
    rename_i lastTwo
    have last : lastPart ref ∉ index.knownRefs := by
      intro member
      rw [lastPart] at member
      rw [if_pos member] at unmatched
      exact Bool.noConfusion unmatched
    refine ⟨whole, fun two member => lastTwo ⟨two, member⟩, last, fun single known => ?_⟩
    rw [lastPart] at last
    rw [if_neg last, if_pos single, decide_eq_true known, Bool.and_true, decide_eq_false_iff_not] at unmatched
    exact not_not.mp unmatched
  · intro unregistered
    have last := unregistered.last
    rw [lastPart] at last
    rw [if_neg unregistered.whole, if_neg (fun both => unregistered.lastTwo both.1 both.2), if_neg last]
    split
    · rename_i single
      by_cases known : canonicalTestPath texts (normaliseHarnessRef ref) ∈ index.knownRefs
      · rw [unregistered.file single known]
        rfl
      · rw [decide_eq_false known, Bool.and_false]
    · rfl

theorem Unregistered.absent (registered : Registered index) (unregistered : Unregistered texts index ref) :
    Absent texts index ref where
  whole := unregistered.whole
  test test := unregistered.last (registered.tests test)
  inFile file inFile := by
    have known := registered.inFiles _ inFile
    dsimp only at known
    exact unregistered.last known
  file single known := by
    have empty := unregistered.file single (registered.files known)
    rw [empty] at known
    exact registered.named known

theorem classify_genuine_iff (droppedCategories : List DocText) :
    classifyUnmatchedRef texts cases ref index droppedCategories = .genuineGap ↔
      refInDroppedCategory cases ref droppedCategories = false ∧
        (canonicalTestPath texts ref ∉ index.knownFiles ∨ canonicalTestPath texts ref ∈ index.filesWithTests ∨
          canonicalTestPath texts ref ∉ index.filesWithBody ∨
            (ascii ".py").isSuffixOf (canonicalTestPath texts ref) = true) := by
  rw [classifyUnmatchedRef]
  by_cases deferred : refInDroppedCategory cases ref droppedCategories = true
  · simp [deferred]
  · rw [if_neg deferred]
    have open_ : refInDroppedCategory cases ref droppedCategories = false := by simpa using deferred
    dsimp only
    split
    · rename_i here
      split
      · rename_i proof
        exact iff_of_true rfl ⟨open_, .inr (.inr proof)⟩
      · rename_i blind
        refine iff_of_false (by decide) fun other => ?_
        rcases other.2 with unknown | tests | rest
        · exact unknown here.1
        · exact here.2 tests
        · exact blind rest
    · rename_i away
      refine iff_of_true rfl ⟨open_, ?_⟩
      by_cases known : canonicalTestPath texts ref ∈ index.knownFiles
      · exact .inr (.inl (by_contra fun none => away ⟨known, none⟩))
      · exact .inl known

instance (ref : DocText) : Decidable (Missing texts cases harnessContent ref) :=
  decidable_of_iff (_ = false ∧ _ ∧ _) ⟨fun ⟨one, two, three⟩ => ⟨unmatched_iff.mp one, two, three⟩, fun missing =>
    ⟨unmatched_iff.mpr missing.unregistered, missing.notDeferred, missing.evidence⟩⟩

theorem missing_iff : Missing texts cases harnessContent ref ↔
    refMatchesHarness texts ref (harnessTestIndex texts harnessContent).knownRefs = false ∧
      classifyUnmatchedRef texts cases ref (harnessTestIndex texts harnessContent)
        (extractDroppedCategories texts cases harnessContent) = .genuineGap := by
  rw [classify_genuine_iff, unmatched_iff]
  exact ⟨fun missing => ⟨missing.unregistered, missing.notDeferred, missing.evidence⟩,
    fun ⟨one, two, three⟩ => ⟨one, two, three⟩⟩

theorem referenceIssue_genuine (task : TaskRefs) :
    (referenceIssue texts cases (harnessTestIndex texts harnessContent)
        (extractDroppedCategories texts cases harnessContent) task).filter (fun issue => issue.gapType = .genuineGap) =
      ((task.harnessRefs.getD []).find? fun ref => Missing texts cases harnessContent ref).map (genuineIssue task) := by
  cases found : task.harnessRefs with
  | none =>
      rw [referenceIssue, found]
      rfl
  | some refs =>
      rw [referenceIssue, found, Option.getD_some]
      dsimp only
      rw [List.filter_filter, List.filter_filter, List.filter_filter, ← List.head?_filter]
      have same : refs.filter (fun ref => decide (classifyUnmatchedRef texts cases ref (harnessTestIndex texts harnessContent)
          (extractDroppedCategories texts cases harnessContent) = .genuineGap) &&
            !refMatchesHarness texts ref (harnessTestIndex texts harnessContent).knownRefs) =
          refs.filter fun ref => Missing texts cases harnessContent ref := by
        refine List.filter_congr fun ref _ => ?_
        rw [Bool.eq_iff_iff, decide_eq_true_eq, missing_iff, Bool.and_eq_true, decide_eq_true_eq, Bool.not_eq_true',
          and_comm]
      rw [same]
      split
      · rename_i missing others _ _ genuine
        rw [genuine]
        rfl
      · rename_i genuine _
        rw [genuine]
        rfl
      · rename_i genuine _ _
        rw [genuine]
        rfl
      · rename_i genuine _ _
        rw [genuine]
        rfl

theorem fieldIssue_type {check : FieldCheck} {task : TaskLines} {issue : Issue}
    (found : fieldIssue texts cases check task = some issue) : issue.gapType = check.gapType := by
  rw [fieldIssue] at found
  dsimp only at found
  split at found
  · obtain rfl := Option.some.inj found
    rfl
  · split at found
    · exact absurd found (by simp)
    · obtain rfl := Option.some.inj found
      rfl

theorem fields_not_genuine {issue : Issue} (member : issue ∈ validateTaskFields texts cases tasksContent) :
    issue.gapType ≠ .genuineGap := by
  obtain ⟨task, _, inside⟩ := List.mem_flatMap.mp member
  rcases List.mem_append.mp inside with priority | estimate
  · rw [fieldIssue_type (Option.mem_toList.mp priority)]
    decide
  · rw [fieldIssue_type (Option.mem_toList.mp estimate)]
    decide

theorem mem_genuine {issue : Issue} : issue ∈ validateTaskReferences texts cases tasksContent harnessContent ∧
    issue.gapType = .genuineGap ↔ ∃ task ∈ parseTaskBlocks texts tasksContent, ∃ ref,
      ((task.harnessRefs.getD []).find? fun ref => Missing texts cases harnessContent ref) = some ref ∧
        issue = genuineIssue task ref := by
  constructor
  · rintro ⟨member, genuine⟩
    rcases List.mem_append.mp member with reference | field
    · obtain ⟨task, among, found⟩ := List.mem_filterMap.mp reference
      have same := @referenceIssue_genuine texts cases harnessContent task
      rw [found, Option.filter_some, if_pos (by simpa using genuine)] at same
      obtain ⟨ref, first, built⟩ := Option.map_eq_some_iff.mp same.symm
      exact ⟨task, among, ref, first, built.symm⟩
    · exact absurd genuine (fields_not_genuine field)
  · rintro ⟨task, among, ref, first, rfl⟩
    have same := @referenceIssue_genuine texts cases harnessContent task
    rw [first, Option.map_some] at same
    obtain ⟨found, genuine⟩ := Option.filter_eq_some_iff.mp same
    exact ⟨List.mem_append_left _ (List.mem_filterMap.mpr ⟨task, among, found⟩), rfl⟩

theorem genuine_flags : (!nonFlaggingGapTypes.contains GapType.genuineGap.text) = true := by decide

theorem mem_taskReferences {issue : Issue} (member : issue ∈ validateTaskReferences texts cases tasksContent harnessContent) :
    { gapType := some issue.gapType.text, detail := String.ofList issue.reason } ∈
      taskReferences texts cases tasksContent (String.ofList harnessContent) := by
  rw [taskReferences, String.toList_ofList]
  exact List.mem_map.mpr ⟨issue, member, rfl⟩

structure GapReported (texts : Texts) (cases : LetterCases) (tasksContent harnessContent : DocText) (task : TaskLines)
    (refs : List DocText) : Prop where
  reported : ∃ front missing back, refs = front ++ missing :: back ∧ Missing texts cases harnessContent missing ∧
    (∀ ref ∈ front, ¬Missing texts cases harnessContent ref) ∧
    ∃ issue ∈ validateTaskReferences texts cases tasksContent harnessContent, issue.gapType = .genuineGap ∧
      issue.taskNumber = task.number ∧ issue.taskTitle = task.title ∧ issue.referencedTest = some missing
  flagged : harnessContent ≠ [] →
    (validateStageFindings (taskReferences texts cases tasksContent) .tasks (String.ofList harnessContent)).2 = true

/-- A genuine gap is reported for a task with a missing reference, and what is reported is missing and not indexed. -/
theorem task_gaps_reported (texts : Texts) (cases : LetterCases) (tasksContent harnessContent : DocText) :
    (∀ task ∈ taskLines texts tasksContent, ∀ refsText, harnessRefsField texts task.block = some refsText →
      setupOnly texts refsText = false → ∀ ref ∈ backtickRefs refsText, Missing texts cases harnessContent ref →
        GapReported texts cases tasksContent harnessContent task (backtickRefs refsText)) ∧
    ∀ issue ∈ validateTaskReferences texts cases tasksContent harnessContent, issue.gapType = .genuineGap →
      ∃ task ∈ taskLines texts tasksContent, ∃ refsText, harnessRefsField texts task.block = some refsText ∧
        setupOnly texts refsText = false ∧ ∃ ref ∈ backtickRefs refsText, issue.taskNumber = task.number ∧
          issue.taskTitle = task.title ∧ issue.referencedTest = some ref ∧ Missing texts cases harnessContent ref ∧
            Absent texts (harnessTestIndex texts harnessContent) ref := by
  constructor
  · intro task among refsText field marker ref named missing
    obtain ⟨first, found⟩ : ∃ first,
        (backtickRefs refsText).find? (fun ref => Missing texts cases harnessContent ref) = some first := by
      refine Option.isSome_iff_exists.mp (List.find?_isSome.mpr ⟨ref, named, by simpa using missing⟩)
    obtain ⟨holds, front, back, split, before⟩ := List.find?_eq_some_iff_append.mp found
    have parsed : ({ taskNumber := task.number, taskTitle := task.title, harnessRefs := some (backtickRefs refsText) } : TaskRefs) ∈
        parseTaskBlocks texts tasksContent := by
      refine List.mem_map.mpr ⟨task, among, ?_⟩
      rw [field, Option.map_some, marker]
      rfl
    have issue := mem_genuine.mpr ⟨_, parsed, first, found, rfl⟩
    refine ⟨⟨front, first, back, split, by simpa using holds, fun ref member => by simpa using before ref member,
      _, issue.1, rfl, rfl, rfl, rfl⟩, fun filled => ?_⟩
    have stored := mem_taskReferences issue.1
    rw [validateStageFindings, if_pos ⟨rfl, fun empty => filled (String.ofList_eq_empty_iff.mp empty)⟩]
    exact List.any_eq_true.mpr ⟨_, stored, genuine_flags⟩
  · intro issue member genuine
    obtain ⟨task, among, ref, first, rfl⟩ := mem_genuine.mp ⟨member, genuine⟩
    obtain ⟨lines, inside, rfl⟩ := List.mem_map.mp among
    have missing : Missing texts cases harnessContent ref := by simpa using List.find?_some first
    have named := List.mem_of_find?_eq_some first
    cases field : harnessRefsField texts lines.block with
    | none =>
        rw [field] at named
        exact absurd named List.not_mem_nil
    | some refsText =>
        rw [field, Option.map_some, Option.getD_some] at named
        split at named
        · exact absurd named List.not_mem_nil
        · rename_i marker
          exact ⟨lines, inside, refsText, field, by simpa using marker, ref, named, rfl, rfl, rfl, missing,
            missing.unregistered.absent (registered_index _ _)⟩

def gappyTasks : DocText := DocText.ofParts [
  "### T-1: A\n**Harness refs:** `b.py::test_a`\n", "### T-2: B\n**Harness refs:** `b.py::test_x` `b.py::test_y`"]

def gappyHarness : DocText := ascii "### File: a.py\n```\ndef test_a\n```"

theorem gaps_masked :
    (parseTaskBlocks sampleTexts gappyTasks).map (·.harnessRefs) = [
      some [ascii "b.py::test_a"], some [ascii "b.py::test_x", ascii "b.py::test_y"]] ∧
      canonicalTestPath sampleTexts (ascii "b.py::test_a") ∉ (harnessTestIndex sampleTexts gappyHarness).knownFiles ∧
      canonicalTestPath sampleTexts (ascii "b.py::test_y") ∉ (harnessTestIndex sampleTexts gappyHarness).knownFiles ∧
      extractDroppedCategories sampleTexts sampleCases gappyHarness = [] ∧
      ((validateTaskReferences sampleTexts sampleCases gappyTasks gappyHarness).filter fun issue =>
        issue.gapType = .genuineGap).map (fun issue => (issue.taskNumber, issue.referencedTest)) =
        [(2, some (ascii "b.py::test_x"))] := by
  have letters : gappyTasks = List.flatten _ := DocText.ofParts_letters [_, _]
  rw [letters]
  refine ⟨?_, ?_, ?_, ?_, ?_⟩
  · decide
  · decide
  · decide
  · decide
  · decide

end Thought2Build.Evals
