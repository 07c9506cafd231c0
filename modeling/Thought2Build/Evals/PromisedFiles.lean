import Thought2Build.Evals.PromisedFilesCore
import Thought2Build.Evals.RequirementCoverage
import Thought2Build.Library.SplitTexts
import Thought2Build.Pipeline.CanonicalPaths

/-!
Whether a promised file counts as emitted when its path is the heading of a block. The index strips the path of a
heading twice, a cell of the matrix or of the tree is stripped once: they agree where once is enough.
-/

namespace Thought2Build.Evals

open Patterns Pattern Pipeline Pipeline.DocText Trimming
open Integrations (Texts sampleTexts)

variable {texts : Texts} {fold : Char → DocText} {path heading line : DocText} {scan : Scan}

def headingMark : DocText := "### File: ".toList

def headingLine (path : DocText) : DocText := headingMark ++ path

theorem headingLine_eq (path : DocText) :
    headingLine path = '#' :: '#' :: '#' :: ' ' :: 'F' :: ("ile:".toList ++ ' ' :: path) := by
  have letters : headingMark = ['#', '#', '#', ' ', 'F', 'i', 'l', 'e', ':', ' '] := by decide
  rw [headingLine, letters]
  simp

theorem headingLine_plain (plain : '\n' ∉ path) : '\n' ∉ headingLine path := by
  have mark : '\n' ∉ headingMark := by decide
  rw [headingLine, List.mem_append]
  exact not_or.mpr ⟨mark, plain⟩

theorem heading_reads {finish : Cursor} (plain : '\n' ∉ line)
    (found : finish ∈ ends harnessFileHeading { ahead := line }) :
    ∃ marks white gap file, line = marks ++ (white ++ ('F' :: ("ile:".toList ++ (gap ++ file)))) ∧
      (marks = ['#', '#'] ∨ marks = ['#', '#', '#']) ∧ (white ≠ [] ∧ ∀ letter ∈ white, isSpace letter = true) ∧
      (∀ letter ∈ gap, isSpace letter = true) ∧ finish.groups = [file] := by
  simp only [harnessFileHeading, Pattern.sequence, List.foldr_cons, List.foldr_nil, Pattern.optional, mem_ends_andThen,
    mem_ends_lineStart, mem_ends_literal_iff, mem_ends_some_iff, mem_ends_group_some_iff, mem_ends_textEnd,
    mem_ends_nothing] at found
  obtain ⟨_, ⟨_, rfl⟩, _, ⟨rest, marks, rfl⟩, third, more, _, ⟨white, _, blank, filled, spaces, rfl⟩, _, ⟨_, named, rfl⟩,
    _, ⟨gap, _, wide, _, gaps, rfl⟩, _, ⟨file, behind, within, _, _, rfl⟩, _, ⟨last, rfl⟩, rfl⟩ := found
  simp only [Cursor.skip_ahead] at named wide within last
  have hashes : "##".toList = ['#', '#'] := by simp
  rw [hashes] at marks more
  obtain ⟨marks', whole, both, none⟩ : ∃ marks', line = marks' ++ third.ahead ∧
      (marks' = ['#', '#'] ∨ marks' = ['#', '#', '#']) ∧ third.groups = [] := by
    rcases List.mem_append.mp more with mark | nothing
    · obtain ⟨letter, tail, next, hash, rfl⟩ := mem_ends_one_iff.mp mark
      obtain rfl := of_decide_eq_true hash
      refine ⟨_, ?_, .inr rfl, rfl⟩
      exact marks.trans (congrArg (['#', '#'] ++ ·) next)
    · obtain rfl := mem_ends_nothing.mp nothing
      exact ⟨_, marks, .inl rfl, rfl⟩
  have ends : behind = [] := by
    rcases last with empty | newline
    · exact empty
    · exact absurd (by simp [whole, blank, named, wide, within, newline]) plain
  rw [ends, List.append_nil] at within
  refine ⟨marks', white, gap, file, ?_, both, ⟨filled, spaces⟩, gaps, ?_⟩
  · rw [whole, blank, named, wide, within]
    simp
  · simp [none]

theorem heading_path (plain : '\n' ∉ path) (found : firstGroup harnessFileHeading (headingLine path) = .some heading) :
    heading.strip = path.strip := by
  rw [firstGroup, matchStart] at found
  obtain ⟨finish, first, captured⟩ := Option.bind_eq_some_iff.mp found
  obtain ⟨marks, white, gap, file, whole, both, ⟨filled, spaces⟩, gaps, groups⟩ :=
    heading_reads (headingLine_plain plain) (List.mem_of_head? first)
  rw [groups, List.getLast?_singleton, Option.some_inj] at captured
  subst captured
  obtain ⟨space, white, rfl⟩ := List.exists_cons_of_ne_nil filled
  obtain ⟨blank, blanks⟩ := List.forall_mem_cons.mp spaces
  rw [headingLine_eq] at whole
  rcases both with rfl | rfl
  · -- The third mark is no white space.
    simp only [List.cons_append, List.nil_append, List.cons.injEq, true_and] at whole
    rw [← whole.1] at blank
    exact absurd blank (by decide)
  · simp only [List.cons_append, List.nil_append, List.cons.injEq, true_and] at whole
    cases white with
    | cons letter white =>
        simp only [List.cons_append, List.cons.injEq] at whole
        rw [List.forall_mem_cons, ← whole.2.1] at blanks
        exact absurd blanks.1 (by decide)
    | nil =>
        simp only [List.nil_append, List.cons.injEq, true_and, List.append_cancel_left_eq] at whole
        have front : ∀ letter ∈ [' '], isSpace letter = true := List.forall_mem_singleton.mpr (by decide)
        calc trim isSpace file
          _ = trim isSpace (gap ++ file) := (trim_append_left gaps).symm
          _ = trim isSpace ([' '] ++ path) := by rw [← whole.2, List.singleton_append]
          _ = trim isSpace path := trim_append_left front

theorem heading_isSome (filled : path ≠ []) (plain : '\n' ∉ path) :
    (firstGroup harnessFileHeading (headingLine path)).isSome := by
  have space : ∀ letter ∈ [' '], isSpace letter = true := List.forall_mem_singleton.mpr (by decide)
  have found : ∃ finish, finish ∈ ends harnessFileHeading { ahead := headingLine path } := by
    rw [headingLine_eq]
    refine ⟨⟨path.reverse ++ " :eliF ###".toList, [], [path]⟩, ?_⟩
    simp only [harnessFileHeading, Pattern.sequence, List.foldr_cons, List.foldr_nil, Pattern.optional,
      mem_ends_andThen, mem_ends_lineStart, mem_ends_literal_iff, mem_ends_some_iff, mem_ends_group_some_iff,
      mem_ends_textEnd, mem_ends_nothing]
    refine ⟨_, ⟨rfl, rfl⟩, _, ⟨'#' :: ' ' :: 'F' :: ("ile:".toList ++ ' ' :: path), by simp, rfl⟩, _,
      List.mem_append_left _ (mem_ends_one_iff.mpr ⟨'#', _, rfl, rfl, rfl⟩), _,
      ⟨[' '], _, rfl, by simp, space, rfl⟩, _, ⟨' ' :: path, by simp, rfl⟩, _,
      ⟨[' '], _, rfl, by simp, space, rfl⟩, _, ⟨path, [], by simp, filled, ?_, rfl⟩, _, ⟨.inl rfl, rfl⟩, ?_⟩
    · intro letter member
      simpa using ne_of_mem_of_not_mem member plain
    · simp [Cursor.skip]
  obtain ⟨_, member⟩ := found
  obtain ⟨finish, first⟩ := Option.isSome_iff_exists.mp (List.isSome_head?.mpr (List.ne_nil_of_mem member))
  obtain ⟨_, _, _, file, _, _, _, _, groups⟩ := heading_reads (headingLine_plain plain) (List.mem_of_head? first)
  rw [firstGroup, matchStart, first, Option.bind_some, groups]
  rfl

structure Between (line : DocText) : Prop where
  file : firstGroup harnessFileHeading line = none
  section_ : matchStart sectionH2 line = none
  fence : firstGroup harnessFenceOpen line = none

structure Opens (line : DocText) (fence : Fence) : Prop where
  file : firstGroup harnessFileHeading line = none
  section_ : matchStart sectionH2 line = none
  fence : ∃ more, firstGroup harnessFenceOpen line = .some (fence.char :: more) ∧ fence.length = more.length + 1

structure Within (line : DocText) (fence : Fence) : Prop where
  file : firstGroup harnessFileHeading line = none
  stays : Scan.closes line fence = false

def HasFile (harness path : DocText) : Prop := ∃ front between opener fence body back,
  harness.lines = front ++ (headingLine path).rdropWhile (· = '\r') :: (between ++ opener :: (body ++ back)) ∧
  (∀ line ∈ between, Between line) ∧ Opens opener fence ∧ (∀ line ∈ body, Within line fence) ∧
  ∃ line ∈ body, DocText.strip line ≠ []

theorem readLines_between {lines : List DocText} (outside : scan.fence = none) (between : ∀ line ∈ lines, Between line)
    (back : List DocText) : scan.readLines texts (lines ++ back) = scan.readLines texts back := by
  induction lines with
  | nil => rfl
  | cons line lines ih =>
      obtain ⟨here, later⟩ := List.forall_mem_cons.mp between
      have same : scan.readLine texts line = (scan, {}) := by
        rw [Scan.readLine, here.file]
        dsimp only
        rw [outside]
        dsimp only
        rw [here.section_, here.fence]
        rfl
      rw [List.cons_append, Scan.readLines, same, HarnessTestIndex.empty_union]
      exact ih later

theorem readLines_opener {fence : Fence} (outside : scan.fence = none) (opens : Opens line fence)
    (back : List DocText) : scan.readLines texts (line :: back) = { scan with fence := .some fence }.readLines texts back := by
  obtain ⟨more, found, length⟩ := opens.fence
  have same : scan.readLine texts line = ({ scan with fence := .some fence }, {}) := by
    rw [Scan.readLine, opens.file]
    dsimp only
    rw [outside]
    dsimp only
    rw [opens.section_, found]
    dsimp only
    rw [← length]
    rfl
  rw [Scan.readLines, same, HarnessTestIndex.empty_union]

theorem readLine_within {fence : Fence} (inside : scan.fence = .some fence) (within : Within line fence) :
    (scan.readLine texts line).1.fence = .some fence ∧ (scan.readLine texts line).1.file = scan.file ∧
      (DocText.strip line ≠ [] → scan.file ⊆ (scan.readLine texts line).2.filesWithBody) := by
  obtain ⟨stays, -, -, -⟩ := @Scan.readCode_files texts scan line
  rw [Scan.readLine, within.file]
  dsimp only
  rw [inside]
  dsimp only
  rw [within.stays, if_neg Bool.false_ne_true]
  split
  · refine ⟨inside, rfl, fun ink => ?_⟩
    rw [if_neg ink]
  · refine ⟨inside, stays, fun ink => ?_⟩
    rw [if_neg ink]
    exact Finset.subset_union_left

theorem readLines_within {lines : List DocText} {fence : Fence} (inside : scan.fence = .some fence)
    (within : ∀ line ∈ lines, Within line fence) (ink : ∃ line ∈ lines, DocText.strip line ≠ []) (back : List DocText) :
    scan.file ⊆ (scan.readLines texts (lines ++ back)).filesWithBody := by
  induction lines generalizing scan with
  | nil =>
      obtain ⟨line, member, _⟩ := ink
      exact absurd member List.not_mem_nil
  | cons line lines ih =>
      obtain ⟨here, later⟩ := List.forall_mem_cons.mp within
      obtain ⟨open_, file, body⟩ := @readLine_within texts _ _ _ inside here
      rw [List.cons_append, Scan.readLines, HarnessTestIndex.union_def]
      by_cases blank : DocText.strip line = []
      · obtain ⟨other, member, filled⟩ := ink
        rcases List.mem_cons.mp member with rfl | member
        · exact absurd blank filled
        · rw [← file]
          exact (ih open_ later ⟨other, member, filled⟩).trans Finset.subset_union_right
      · exact (body blank).trans Finset.subset_union_left

def headingFiles (texts : Texts) (path : DocText) : Finset DocText :=
  ({canonicalTestPath texts (normaliseHarnessRef path)} : Finset DocText).filter (· ≠ [])

theorem canonical_nil (folds : FoldsLetters texts fold) : canonicalTestPath texts [] = [] :=
  canonicalTestPath_eq folds []

theorem readLine_headingLine (folds : FoldsLetters texts fold) (plain : '\n' ∉ path)
    (found : firstGroup harnessFileHeading (headingLine path) = .some heading) :
    (scan.readLine texts (headingLine path)).1.fence = none ∧
      (scan.readLine texts (headingLine path)).1.file = headingFiles texts path ∧
      (scan.readLine texts (headingLine path)).2.knownFiles = headingFiles texts path := by
  have same : normaliseHarnessRef heading = normaliseHarnessRef path :=
    normaliseHarnessRef_congr (heading_path plain found)
  have read : (scan.readLine texts (headingLine path)).1 = {
      fileNorm := .some (normaliseHarnessRef path)
      fileCanon := if normaliseHarnessRef path = [] then none else
        .some (canonicalTestPath texts (normaliseHarnessRef path)) } := by
    rw [Scan.readLine, found, ← same]
  have known : (scan.readLine texts (headingLine path)).2.knownFiles =
      (scan.readLine texts (headingLine path)).1.file := by
    rw [Scan.readLine, found]
  rw [known, and_self]
  refine ⟨by rw [read], ?_⟩
  rw [read, Scan.file, headingFiles]
  by_cases empty : normaliseHarnessRef path = []
  · rw [empty, canonical_nil folds]
    rfl
  · rw [if_neg empty, truthy]
    by_cases nil : canonicalTestPath texts (normaliseHarnessRef path) = []
    · rw [nil]
      rfl
    · simp [nil, Option.filter, Finset.filter_singleton]

theorem rdropWhile_headingLine (path : DocText) :
    (headingLine path).rdropWhile (· = '\r') = headingLine (path.rdropWhile (· = '\r')) := by
  have none : headingMark.all (fun letter => !decide (letter = '\r')) = true := by decide
  exact rdropWhile_append_left (fun letter member => by simpa using List.all_eq_true.mp none letter member) path

theorem strip_rdropWhile (path : DocText) : DocText.strip (path.rdropWhile (· = '\r')) = path.strip := by
  conv_rhs => rw [← List.rdropWhile_append_rtakeWhile (p := fun letter => decide (letter = '\r')) (l := path)]
  refine (trim_append_right fun letter member => ?_).symm
  have same := @List.mem_rtakeWhile_imp _ (fun letter => decide (letter = '\r')) path letter member
  rw [of_decide_eq_true same]
  decide

theorem newline_of_heading {harness : DocText} (member : (headingLine path).rdropWhile (· = '\r') ∈ harness.lines) :
    '\n' ∉ path := by
  obtain ⟨raw, among, same⟩ := List.mem_map.mp member
  intro inside
  obtain ⟨front, back, rfl⟩ := List.append_of_mem inside
  rw [rdropWhile_headingLine, rdropWhile_around (by decide)] at same
  have newline : '\n' ∈ raw.rdropWhile (· = '\r') := by
    rw [same, headingLine]
    simp
  exact SplitTexts.not_mem_part among ((List.rdropWhile_prefix _ _).subset newline)

theorem headingFiles_rdropWhile (path : DocText) :
    headingFiles texts (path.rdropWhile (· = '\r')) = headingFiles texts path := by
  rw [headingFiles, headingFiles, normaliseHarnessRef_congr (strip_rdropWhile path)]

section

variable {between body back : List DocText} {opener : DocText} {fence : Fence}

theorem readLines_fenced (outside : scan.fence = none) (quiet : ∀ line ∈ between, Between line)
    (opens : Opens opener fence) (within : ∀ line ∈ body, Within line fence)
    (ink : ∃ line ∈ body, DocText.strip line ≠ []) :
    scan.file ⊆ (scan.readLines texts (between ++ opener :: (body ++ back))).filesWithBody := by
  have inside : ({ scan with fence := .some fence } : Scan).fence = .some fence := rfl
  rw [readLines_between outside quiet, readLines_opener outside opens]
  exact readLines_within inside within ink back

theorem readLines_block (folds : FoldsLetters texts fold) (filled : path ≠ []) (plain : '\n' ∉ path)
    (quiet : ∀ line ∈ between, Between line) (opens : Opens opener fence) (within : ∀ line ∈ body, Within line fence)
    (ink : ∃ line ∈ body, DocText.strip line ≠ []) : headingFiles texts path ⊆
      (scan.readLines texts (headingLine path :: (between ++ opener :: (body ++ back)))).filesWithBody := by
  obtain ⟨heading, found⟩ := Option.isSome_iff_exists.mp (heading_isSome filled plain)
  obtain ⟨outside, file, _⟩ := @readLine_headingLine _ _ _ _ scan folds plain found
  have later := @readLines_fenced texts _ between body back _ _ outside quiet opens within ink
  rw [file] at later
  rw [Scan.readLines, HarnessTestIndex.union_def]
  exact later.trans Finset.subset_union_right

end

theorem HasFile.plain {harness : DocText} (has : HasFile harness path) : '\n' ∉ path := by
  obtain ⟨front, _, _, _, _, _, lines, _⟩ := has
  refine @newline_of_heading _ harness ?_
  rw [lines]
  exact List.mem_append_right _ List.mem_cons_self

theorem hasFile_indexed (folds : FoldsLetters texts fold) {harness : DocText} (has : HasFile harness path)
    (filled : path.strip ≠ []) : headingFiles texts path ⊆ (harnessTestIndex texts harness).filesWithBody := by
  have plain : '\n' ∉ path.rdropWhile (· = '\r') := fun member =>
    has.plain ((List.rdropWhile_prefix _ path).subset member)
  obtain ⟨front, between, opener, fence, body, back, lines, quiet, opens, within, ink⟩ := has
  have ahead : path.rdropWhile (· = '\r') ≠ [] := by
    intro empty
    have none := strip_rdropWhile path
    rw [empty] at none
    exact filled none.symm
  rw [harnessTestIndex, lines, Scan.readLines_append, rdropWhile_headingLine, ← headingFiles_rdropWhile,
    HarnessTestIndex.union_def]
  exact (readLines_block folds ahead plain quiet opens within ink).trans Finset.subset_union_right

theorem readLine_known (plain : firstGroup harnessFileHeading line = none) :
    (scan.readLine texts line).2.knownFiles = ∅ := by
  obtain ⟨_, _, _, known⟩ := @Scan.readCode_files texts scan line
  rw [Scan.readLine, plain]
  dsimp only
  split
  · split
    · rfl
    · split <;> rfl
  · split
    · rfl
    · split
      · rfl
      · simp [HarnessTestIndex.union_def, known]

def oneBlock (path : DocText) : DocText := headingLine path ++ '\n' :: "```\nx".toList

theorem oneBlock_lines (plain : '\n' ∉ path) :
    (oneBlock path).lines = [headingLine (path.rdropWhile (· = '\r')), "```".toList, "x".toList] := by
  have behind : DocText.lines "```\nx".toList = ["```".toList, "x".toList] := by decide
  rw [oneBlock, DocText.lines_append, behind, DocText.lines, List.splitOn_eq_singleton (headingLine_plain plain),
    List.map_singleton, rdropWhile_headingLine]
  rfl

theorem oneBlock_hasFile (plain : '\n' ∉ path) : HasFile (oneBlock path) path := by
  refine ⟨[], [], "```".toList, ⟨backtick, 3⟩, ["x".toList], [], ?_, by simp, ⟨by decide, by decide, ?_⟩, ?_, ?_⟩
  · rw [oneBlock_lines plain, rdropWhile_headingLine]
    rfl
  · exact ⟨[backtick, backtick], by decide, rfl⟩
  · simp only [List.forall_mem_singleton]
    exact ⟨by decide, by decide⟩
  · exact ⟨_, List.mem_cons_self, by decide⟩

theorem oneBlock_files (folds : FoldsLetters texts fold) (plain : '\n' ∉ path) :
    (harnessTestIndex texts (oneBlock path)).filesWithBody ⊆ headingFiles texts path := by
  have fence : firstGroup harnessFileHeading "```".toList = none := by decide
  have code : firstGroup harnessFileHeading "x".toList = none := by decide
  refine (harnessTestIndex_files texts (oneBlock path)).2.trans ?_
  rw [harnessTestIndex, oneBlock_lines plain, ← headingFiles_rdropWhile]
  simp only [Scan.readLines, HarnessTestIndex.union_def, readLine_known fence, readLine_known code, Finset.union_empty]
  have plain' : '\n' ∉ path.rdropWhile (· = '\r') := fun member =>
    plain ((List.rdropWhile_prefix _ path).subset member)
  cases found : firstGroup harnessFileHeading (headingLine (path.rdropWhile (· = '\r'))) with
  | none =>
      rw [readLine_known found]
      exact Finset.empty_subset _
  | some heading => rw [(readLine_headingLine folds plain' found).2.2]

theorem canonicalBasename_bare {canon : DocText} (bare : '/' ∉ canon) : canonicalBasename canon = canon := by
  rw [canonicalBasename, List.splitOn_eq_singleton bare]
  rfl

theorem not_emitted_of_empty {harness : DocText} (only : (harnessTestIndex texts harness).filesWithBody ⊆ ∅)
    (canon : DocText) : (emittedFileIndex texts harness).fileIsEmitted canon = false := by
  rw [emittedFileIndex, Finset.subset_empty.mp only, EmittedFiles.fileIsEmitted]
  simp

theorem not_emitted_longer {harness key white : DocText}
    (only : (harnessTestIndex texts harness).filesWithBody ⊆ {key}) (longer : white ≠ []) (bare : '/' ∉ white) :
    (emittedFileIndex texts harness).fileIsEmitted (key ++ white) = false := by
  have other : key ++ white ≠ key := by
    intro same
    exact longer (List.append_right_eq_self.mp same)
  have keys : ∀ canon ∈ (emittedFileIndex texts harness).canon, canon = key := fun canon member =>
    Finset.mem_singleton.mp (only (Finset.mem_of_mem_filter canon member))
  rw [EmittedFiles.fileIsEmitted, if_neg fun member => other (keys _ member)]
  by_cases slash : '/' ∈ key
  · have bases : canonicalBasename (key ++ white) ∉ (emittedFileIndex texts harness).bareBases := by
      intro member
      obtain ⟨among, plain⟩ := Finset.mem_filter.mp member
      rw [keys _ among] at plain
      exact plain slash
    rw [if_neg (not_not_intro (List.mem_append_left _ slash)), decide_eq_false bases]
  · have plain : '/' ∉ key ++ white := fun member => (List.mem_append.mp member).elim slash bare
    have bases : canonicalBasename (key ++ white) ∉ (emittedFileIndex texts harness).allBases := by
      intro member
      obtain ⟨canon, among, same⟩ := Finset.mem_image.mp member
      rw [keys _ among, canonicalBasename_bare slash, canonicalBasename_bare plain] at same
      exact other same.symm
    rw [if_pos plain, decide_eq_false bases]

/-- What is left of the path behind dots, slashes and one `harness/` begins and ends with nothing that is stripped.
Where the path is one line, something is left, and a colon ends it only where no scope follows. -/
def OnePass (texts : Texts) (path : DocText) : Prop := ∃ front rest, Leading front ∧ Stripped rest ∧
  (texts.casefold (String.ofList (filePart path))).toList = front ++ rest ∧
  ('\n' ∈ path ∨ rest ≠ [] ∧ (rest.getLast? = .some ':' → laterScopes (ticked path) = []))

structure Consistent (texts : Texts) (path : DocText) : Prop where
  emitted : ∀ harness, HasFile harness path →
    (emittedFileIndex texts harness).fileIsEmitted (canonicalTestPath texts path) = true
  canonical : canonicalTestPath texts (canonicalTestPath texts path) = canonicalTestPath texts path

theorem consistent_of_onePass (folds : FoldsLetters texts fold) (once : OnePass texts path) :
    Consistent texts path := by
  obtain ⟨front, rest, leading, stripped, whole, ends⟩ := once
  rw [folds.letterwise, String.toList_ofList] at whole
  have canon : canonicalTestPath texts path = rest := by
    rw [canonicalTestPath_eq folds, whole, stripMarks_append leading stripped.toUnmarked]
  refine ⟨fun harness has => ?_, (canonical_idempotent_iff folds path).mpr (by rwa [canon])⟩
  obtain ⟨filled, colon⟩ := ends.resolve_left has.plain
  have key := (canonical_heading folds leading stripped whole).1 colon
  have ink : path.strip ≠ [] := by
    intro empty
    have part : filePart path = [] := by
      rw [filePart, ticked, empty]
      rfl
    rw [part, List.flatMap_nil] at whole
    exact filled (List.append_eq_nil_iff.mp whole.symm).2
  have member : rest ∈ headingFiles texts path := by
    rw [headingFiles, key]
    exact Finset.mem_filter.mpr ⟨Finset.mem_singleton_self _, filled⟩
  have emitted : rest ∈ (emittedFileIndex texts harness).canon :=
    Finset.mem_filter.mpr ⟨hasFile_indexed folds has ink member, filled⟩
  rw [canon, EmittedFiles.fileIsEmitted, if_pos emitted]

theorem onePass_of_consistent (folds : FoldsLetters texts fold) (consistent : Consistent texts path) :
    OnePass texts path := by
  have stripped := (canonical_idempotent_iff folds path).mp consistent.canonical
  obtain ⟨front, leading, whole⟩ := stripMarks_split ((filePart path).flatMap fold)
  rw [← canonicalTestPath_eq folds] at whole
  refine ⟨front, canonicalTestPath texts path, leading, stripped, ?_, ?_⟩
  · rw [folds.letterwise, String.toList_ofList, whole]
  by_cases newline : '\n' ∈ path
  · exact .inl newline
  have emitted := consistent.emitted (oneBlock path) (oneBlock_hasFile newline)
  have only := oneBlock_files folds newline
  obtain ⟨alone, shorter⟩ := canonical_heading folds leading stripped whole
  refine .inr ⟨fun empty => ?_, fun colon => ?_⟩
  · have key := alone fun last => by
      rw [empty] at last
      cases last
    rw [headingFiles, key, empty] at only
    rw [not_emitted_of_empty only] at emitted
    cases emitted
  · by_contra scopes
    obtain ⟨white, filled, bare, same⟩ := shorter colon scopes
    have longer := not_emitted_longer (only.trans (Finset.filter_subset _ _)) filled bare
    rw [← same, emitted] at longer
    cases longer

theorem onePass_not_missing (folds : FoldsLetters texts fold) (cases : LetterCases) {artifactMd : DocText}
    (has : HasFile artifactMd path) (once : OnePass texts path) :
    canonicalTestPath texts path ∉ missingHarnessFiles texts cases artifactMd := by
  intro missing
  have absent := (Finset.mem_filter.mp missing).2
  rw [(consistent_of_onePass folds once).emitted artifactMd has] at absent
  cases absent

/-- Heading, matrix and tree agree on a path, whether or not it is promised, exactly if it is stripped once. -/
theorem canonical_paths_consistent_iff (folds : FoldsLetters texts fold) (path : DocText) :
    Consistent texts path ↔ OnePass texts path :=
  ⟨onePass_of_consistent folds, consistent_of_onePass folds⟩

def capitals : List Char := "ABCDEFGHIJKLMNOPQRSTUVWXYZ".toList

theorem toLower_cases (letter : Char) : letter.toLower = letter ∨ letter ∈ capitals := by
  by_cases capital : letter.val ≥ 'A'.val ∧ letter.val ≤ 'Z'.val
  · obtain ⟨least, most⟩ := capital
    have first : 65 ≤ letter.toNat := UInt32.le_iff_toNat_le.mp least
    have last : letter.toNat ≤ 90 := UInt32.le_iff_toNat_le.mp most
    have all : ∀ number < 26, Char.ofNat (65 + number) ∈ capitals := by decide
    have member := all (letter.toNat - 65) (by omega)
    rw [Nat.add_sub_cancel' first, Char.ofNat_toNat] at member
    exact .inr member
  · exact .inl (dif_neg capital)

theorem sampleTexts_folds : FoldsLetters sampleTexts fun letter => [letter.toLower] where
  letterwise text := by
    calc sampleTexts.casefold (String.ofList text)
      _ = String.ofList ((String.ofList text).toList.map Char.toLower) := rfl
      _ = String.ofList (text.flatMap fun letter => [letter.toLower]) := by
        rw [String.toList_ofList, ← List.flatMap_pure_eq_map]
        rfl
  filled letter := List.cons_ne_nil _ _
  settled letter other member := by
    have all : capitals.all (fun letter => letter.toLower.toLower = letter.toLower) = true := by decide
    rw [List.mem_singleton.mp member]
    rcases toLower_cases letter with same | capital
    · rw [same, same]
    · rw [of_decide_eq_true (List.all_eq_true.mp all letter capital)]
  marks letter mark := by
    have all : capitals.all (!isMark ·) = true := by decide
    rcases toLower_cases letter with same | capital
    · rw [same]
    · have none := List.all_eq_true.mp all letter capital
      rw [mark] at none
      cases none
  apart letter plain other member := by
    have all : capitals.all (fun letter => !isMark letter.toLower) = true := by decide
    rw [List.mem_singleton.mp member]
    rcases toLower_cases letter with same | capital
    · rw [same, plain]
    · simpa using List.all_eq_true.mp all letter capital
  small letter member := by
    have all : "harness".toList.all (fun letter => letter.toLower = letter) = true := by decide
    rw [of_decide_eq_true (List.all_eq_true.mp all letter member)]

theorem canonical_paths_consistent_sample : Consistent sampleTexts "./tests/x_test.py".toList := by
  refine (canonical_paths_consistent_iff sampleTexts_folds _).mpr ⟨"./".toList, "tests/x_test.py".toList,
    ⟨1, 0, [], by simp, by decide⟩, ⟨⟨by decide, by decide, by decide⟩, by decide, by decide⟩, by decide, .inr ⟨?_, ?_⟩⟩
  · decide
  · decide

def nestedPath : DocText := "harness/harness/tests/x_test.py".toList

def nestedHarness : DocText := ofParts [
  "## File Tree\nharness/harness/tests/x_test.py\n",
  "## Files\n### File: harness/harness/tests/x_test.py\n```\nx\n```"]

theorem nested_path_missing : nestedPath ∈ promisedPaths sampleCases nestedHarness ∧ HasFile nestedHarness nestedPath ∧
    (emittedFileIndex sampleTexts nestedHarness).fileIsEmitted (canonicalTestPath sampleTexts nestedPath) = false ∧
    canonicalTestPath sampleTexts (canonicalTestPath sampleTexts nestedPath) ≠
      canonicalTestPath sampleTexts nestedPath := by
  refine ⟨by decide, ?_, by decide, by decide⟩
  refine ⟨["## File Tree".toList, nestedPath, "## Files".toList], [], "```".toList, ⟨backtick, 3⟩, ["x".toList],
    ["```".toList], by decide, by simp, ⟨by decide, by decide, ?_⟩, ?_, ?_⟩
  · exact ⟨[backtick, backtick], by decide, rfl⟩
  · simp only [List.forall_mem_singleton]
    exact ⟨by decide, by decide⟩
  · exact ⟨_, List.mem_cons_self, by decide⟩

end Thought2Build.Evals
