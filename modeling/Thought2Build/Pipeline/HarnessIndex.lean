import Thought2Build.Library.Histories
import Thought2Build.Library.PatternPlaces
import Thought2Build.Pipeline.HarnessIndexCore

/-! The index of a harness is put together from the indexes of its files. -/

namespace Thought2Build.Pipeline

open Patterns Pattern Histories
open Integrations (Texts sampleTexts)

namespace DocText

theorem lines_append (front back : DocText) :
    DocText.lines (front ++ '\n' :: back) = DocText.lines front ++ DocText.lines back := by
  simp [lines, List.splitOn_append_cons_self]

theorem strip_eq_nil {text : DocText} : text.strip = [] ↔ ∀ letter ∈ text, isSpace letter = true := by
  rw [strip, List.rdropWhile_eq_nil_iff]
  constructor
  · intro blank letter member
    rw [← @List.takeWhile_append_dropWhile _ isSpace text] at member
    rcases List.mem_append.mp member with early | late
    · exact List.mem_takeWhile_imp early
    · exact blank letter late
  · intro blank letter member
    exact blank letter ((List.dropWhile_sublist _).mem member)

end DocText

/-! Expressions that read more than white space -/

def Inked (pattern : Pattern) : Prop :=
  ∀ cursor, ∀ finish ∈ ends pattern cursor, ∃ letter ∈ cursor.ahead, isSpace letter = false

namespace Inked

variable {first second : Pattern}

theorem literal {text : String} (ink : ∃ letter ∈ text.toList, isSpace letter = false) : Inked (.literal text) := by
  intro cursor finish found
  obtain ⟨letter, member, dark⟩ := ink
  rw [mem_ends_literal found]
  exact ⟨letter, List.mem_append_left _ member, dark⟩

theorem here (inked : Inked first) : Inked (.andThen first second) := by
  intro cursor finish found
  obtain ⟨middle, early, _⟩ := mem_ends_andThen.mp found
  exact inked cursor middle early

theorem later (inked : Inked second) : Inked (.andThen first second) := by
  intro cursor finish found
  obtain ⟨middle, early, late⟩ := mem_ends_andThen.mp found
  obtain ⟨read, whole, _⟩ := ends_reads early
  obtain ⟨letter, member, dark⟩ := inked middle finish late
  rw [whole]
  exact ⟨letter, List.mem_append_right _ member, dark⟩

theorem either (one : Inked first) (two : Inked second) : Inked (.either first second) := by
  intro cursor finish found
  rcases List.mem_append.mp found with early | late
  · exact one cursor finish early
  · exact two cursor finish late

theorem indentedBy {rest : List Pattern} (inked : Inked (sequence rest)) : Inked (Scanner.indentedBy rest) :=
  later (later inked)

theorem blank {pattern : Pattern} {line : DocText} (inked : Inked pattern) (empty : line.strip = []) :
    firstGroup pattern line = none := by
  rw [firstGroup, matchStart]
  cases found : (ends pattern { ahead := line }).head? with
  | none => rfl
  | some finish =>
      obtain ⟨letter, member, dark⟩ := inked _ finish (List.mem_of_head? found)
      rw [DocText.strip_eq_nil.mp empty letter member] at dark
      contradiction

variable (texts : Texts)

theorem classDef : Inked (Scanner.classDef texts) := indentedBy (here (literal ⟨'c', by decide, by decide⟩))

theorem testFuncDef : Inked (Scanner.testFuncDef texts) :=
  indentedBy (later (here (literal ⟨'d', by decide, by decide⟩)))

theorem goTestFunc : Inked Scanner.goTestFunc := indentedBy (here (literal ⟨'f', by decide, by decide⟩))

theorem goReceiverTest : Inked Scanner.goReceiverTest := indentedBy (here (literal ⟨'f', by decide, by decide⟩))

theorem itOrTest : Inked (.either (.literal "it") (.literal "test")) :=
  either (literal ⟨'i', by decide, by decide⟩) (literal ⟨'t', by decide, by decide⟩)

theorem tsTestDef : Inked (Scanner.tsTestDef texts) := indentedBy (here itOrTest)

theorem tsEach : Inked (Scanner.tsEach texts) := indentedBy (here itOrTest)

theorem tsDescribeDef : Inked (Scanner.tsDescribeDef texts) :=
  indentedBy (here (literal ⟨'d', by decide, by decide⟩))

theorem rspecTest : Inked Scanner.rspecTest :=
  indentedBy (here (either (literal ⟨'i', by decide, by decide⟩) (either (literal ⟨'s', by decide, by decide⟩)
    (either (literal ⟨'s', by decide, by decide⟩) (literal ⟨'e', by decide, by decide⟩)))))

theorem rspecDescribe : Inked Scanner.rspecDescribe :=
  indentedBy (here (either (literal ⟨'d', by decide, by decide⟩)
    (either (literal ⟨'c', by decide, by decide⟩) (literal ⟨'f', by decide, by decide⟩))))

end Inked

namespace HarnessTestIndex

variable (first second third : HarnessTestIndex)

theorem union_def : first ∪ second = {
    knownRefs := first.knownRefs ∪ second.knownRefs
    knownFiles := first.knownFiles ∪ second.knownFiles
    filesWithTests := first.filesWithTests ∪ second.filesWithTests
    filesWithBody := first.filesWithBody ∪ second.filesWithBody
    testNames := first.testNames ∪ second.testNames
    testsInFile := first.testsInFile ∪ second.testsInFile } := rfl

@[simp] theorem empty_union : {} ∪ first = first := by
  simp [union_def]

@[simp] theorem union_assoc : first ∪ second ∪ third = first ∪ (second ∪ third) := by
  simp [union_def]

end HarnessTestIndex

namespace Scan

variable {texts : Texts} {scan other : Scan} {line : DocText} {front back : List DocText}

theorem readLines_append : scan.readLines texts (front ++ back) =
    scan.readLines texts front ∪ (play (fun scan line => (scan.readLine texts line).1) scan front).readLines texts back := by
  induction front generalizing scan with
  | nil => simp [readLines]
  | cons line front ih =>
      rw [List.cons_append, readLines, readLines, ih, play_cons, HarnessTestIndex.union_assoc]

theorem readLine_heading (heading : (firstGroup harnessFileHeading line).isSome) :
    scan.readLine texts line = other.readLine texts line := by
  obtain ⟨path, found⟩ := Option.isSome_iff_exists.mp heading
  rw [readLine, readLine, found]

theorem readLines_heading (heading : (firstGroup harnessFileHeading line).isSome) :
    scan.readLines texts (line :: back) = other.readLines texts (line :: back) := by
  rw [readLines, readLines, readLine_heading heading]

theorem registerAll_tests (found scope : Option DocText) (scopeQualified isTest : Bool) :
    (scan.registerAll found scope scopeQualified isTest).filesWithTests ⊆ scan.file := by
  cases found with
  | none => exact Finset.empty_subset _
  | some name => exact subset_rfl

theorem registerAll_others (found scope : Option DocText) (scopeQualified isTest : Bool) :
    (scan.registerAll found scope scopeQualified isTest).filesWithBody = ∅ ∧
      (scan.registerAll found scope scopeQualified isTest).knownFiles = ∅ := by
  cases found <;> exact ⟨rfl, rfl⟩

theorem readCode_files : (scan.readCode texts line).1.file = scan.file ∧
    (scan.readCode texts line).2.filesWithTests ⊆ (if line.strip = [] then ∅ else scan.file) ∧
    (scan.readCode texts line).2.filesWithBody = ∅ ∧ (scan.readCode texts line).2.knownFiles = ∅ := by
  refine ⟨rfl, ?_, ?_, ?_⟩
  · split
    · rename_i blank
      simp [readCode, (Inked.classDef texts).blank blank, (Inked.testFuncDef texts).blank blank,
        Inked.goTestFunc.blank blank, Inked.goReceiverTest.blank blank, (Inked.tsDescribeDef texts).blank blank,
        Inked.rspecDescribe.blank blank, (Inked.tsTestDef texts).blank blank, (Inked.tsEach texts).blank blank,
        Inked.rspecTest.blank blank, registerAll, HarnessTestIndex.union_def]
    · simp only [readCode, HarnessTestIndex.union_def, Finset.union_subset_iff]
      exact ⟨⟨⟨⟨registerAll_tests _ _ _ _, registerAll_tests _ _ _ _⟩, registerAll_tests _ _ _ _⟩,
        registerAll_tests _ _ _ _⟩, registerAll_tests _ _ _ _⟩
  · simp only [readCode, HarnessTestIndex.union_def, (registerAll_others _ _ _ _).1, Finset.union_empty]
  · simp only [readCode, HarnessTestIndex.union_def, (registerAll_others _ _ _ _).2, Finset.union_empty]

theorem readLine_files : (scan.readLine texts line).2.filesWithTests ⊆ (scan.readLine texts line).2.filesWithBody ∧
    (scan.readLine texts line).2.filesWithBody ⊆ scan.file ∧
    (scan.readLine texts line).1.file ⊆ scan.file ∪ (scan.readLine texts line).2.knownFiles := by
  obtain ⟨stays, tests, body, known⟩ := @readCode_files texts scan line
  rw [readLine]
  split
  · dsimp only
    exact ⟨subset_rfl, Finset.empty_subset _, Finset.subset_union_right⟩
  · split
    · split
      · exact ⟨subset_rfl, Finset.empty_subset _, Finset.empty_subset _⟩
      · split <;> exact ⟨subset_rfl, Finset.empty_subset _, Finset.subset_union_left⟩
    · split
      · exact ⟨subset_rfl, Finset.empty_subset _, Finset.subset_union_left⟩
      · have within : (if line.strip = [] then ∅ else scan.file) ⊆ scan.file := by
          split
          · exact Finset.empty_subset _
          · exact subset_rfl
        dsimp only
        split
        · exact ⟨Finset.empty_subset _, within, Finset.subset_union_left⟩
        · refine ⟨?_, ?_, ?_⟩
          · simpa [HarnessTestIndex.union_def, body] using tests
          · simpa [HarnessTestIndex.union_def, body] using within
          · rw [stays]
            exact Finset.subset_union_left

theorem readLines_files (lines : List DocText) :
    (scan.readLines texts lines).filesWithTests ⊆ (scan.readLines texts lines).filesWithBody ∧
      (scan.readLines texts lines).filesWithBody ⊆ scan.file ∪ (scan.readLines texts lines).knownFiles := by
  induction lines generalizing scan with
  | nil => exact ⟨subset_rfl, Finset.empty_subset _⟩
  | cons line lines ih =>
      obtain ⟨tests, body, file⟩ := @readLine_files texts scan line
      obtain ⟨laterTests, laterBody⟩ := @ih (scan.readLine texts line).1
      simp only [readLines, HarnessTestIndex.union_def]
      refine ⟨Finset.union_subset_union tests laterTests, Finset.union_subset ?_ ?_⟩
      · exact body.trans Finset.subset_union_left
      · refine laterBody.trans (Finset.union_subset (file.trans ?_) ?_)
        · exact Finset.union_subset_union_right Finset.subset_union_left
        · exact Finset.subset_union_right.trans Finset.subset_union_right

end Scan

def StartsWithFile (text : DocText) : Prop := ∃ line ∈ text.lines.head?, (firstGroup harnessFileHeading line).isSome

theorem harnessTestIndex_append (texts : Texts) (front back : DocText) (heading : StartsWithFile back) :
    harnessTestIndex texts (front ++ '\n' :: back) = harnessTestIndex texts front ∪ harnessTestIndex texts back := by
  obtain ⟨line, first, found⟩ := heading
  obtain ⟨rest, whole⟩ : ∃ rest, back.lines = line :: rest := List.head?_eq_some_iff.mp first
  rw [harnessTestIndex, harnessTestIndex, harnessTestIndex, DocText.lines_append, Scan.readLines_append, whole,
    Scan.readLines_heading found]

theorem harnessTestIndex_files (texts : Texts) (text : DocText) :
    (harnessTestIndex texts text).filesWithTests ⊆ (harnessTestIndex texts text).filesWithBody ∧
      (harnessTestIndex texts text).filesWithBody ⊆ (harnessTestIndex texts text).knownFiles := by
  obtain ⟨tests, body⟩ := @Scan.readLines_files texts {} text.lines
  exact ⟨tests, body.trans (Finset.union_subset (Finset.empty_subset _) subset_rfl)⟩

/-- The index of two texts, the second of which starts with a file, is the union of their indexes; no fence that is
open at the end of the first one matters. -/
theorem harness_index_compositional (texts : Texts) (front back : DocText) (heading : StartsWithFile back) :
    harnessTestIndex texts (front ++ '\n' :: back) = harnessTestIndex texts front ∪ harnessTestIndex texts back ∧
      ∀ text, (harnessTestIndex texts text).filesWithTests ⊆ (harnessTestIndex texts text).filesWithBody ∧
        (harnessTestIndex texts text).filesWithBody ⊆ (harnessTestIndex texts text).knownFiles :=
  ⟨harnessTestIndex_append texts front back heading, harnessTestIndex_files texts⟩

def sampleFile : DocText := "### File: a.py\n```\ndef test_x\n```".toList

theorem harness_index_compositional_sample :
    harnessTestIndex sampleTexts ("```".toList ++ '\n' :: sampleFile) =
        harnessTestIndex sampleTexts "```".toList ∪ harnessTestIndex sampleTexts sampleFile ∧
      ∀ text, (harnessTestIndex sampleTexts text).filesWithTests ⊆ (harnessTestIndex sampleTexts text).filesWithBody ∧
        (harnessTestIndex sampleTexts text).filesWithBody ⊆ (harnessTestIndex sampleTexts text).knownFiles :=
  harness_index_compositional sampleTexts "```".toList sampleFile ⟨"### File: a.py".toList, by decide, by decide⟩

end Thought2Build.Pipeline
