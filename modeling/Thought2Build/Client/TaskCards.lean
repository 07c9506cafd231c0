import Thought2Build.Client.TaskCardHeadings
import Thought2Build.Integrations.TaskReaders

/-!
The cards keep the tasks of a document. The front end finds the tasks and cuts their texts by expressions of its own,
which know neither the headings of the back end nor fenced code; where the headings are read alike, and no line of a
task looks like the end of it, no task and no text is lost.
-/

namespace Thought2Build.Client

open Patterns Pattern
open Integrations (Texts)
open Integrations.Texts (TaskCut cutOf tasksOf scan parseTasks_eq stretch_unique)
open Pipeline (isSpace strip)

structure Fence where
  mark : Char
  length : Nat

def fenceMark (line : List Char) : Option (Fence × List Char) :=
  let marks := line.dropWhile (· = ' ')
  match marks with
  | [] => none
  | mark :: _ =>
      let run := marks.takeWhile (· = mark)
      if (mark.toNat = 96 ∨ mark = '~') ∧ 3 ≤ run.length ∧ line.length ≤ marks.length + 3 then
        .some (⟨mark, run.length⟩, marks.drop run.length)
      else none

def fenceStep (fence : Option Fence) (line : List Char) : Option Fence :=
  match fence, fenceMark line with
  | none, .some (opening, info) => if opening.mark ≠ '~' ∧ info.contains opening.mark then none else .some opening
  | .some fence, .some (closing, info) =>
      if closing.mark = fence.mark ∧ fence.length ≤ closing.length ∧ info.all whiteSpace then none else .some fence
  | fence, none => fence

def fenced (place : Cursor) : Bool := ((place.before.reverse.splitOn '\n').dropLast.foldl fenceStep none).isSome

def opensSection (place : Cursor) : Bool :=
  place.startsLine && "##".toList.isPrefixOf place.line && (place.line.drop 2).head?.all whiteSpace && !fenced place

def untilSection : List Char → List Char → List Char
  | _, [] => []
  | before, letter :: rest =>
      if opensSection ⟨before, letter :: rest, []⟩ then [] else letter :: untilSection (letter :: before) rest

def extents : List (Cursor × Cursor) → List (Cursor × List Char)
  | [] => []
  | found :: following =>
      let stop := (following.head?.map fun next => next.1.ahead.length).getD 0
      (found.1, found.1.ahead.take (found.1.ahead.length - stop)) :: extents following

def taskExtents (texts : Texts) (content : String) : List (Cursor × List Char) :=
  extents (findIter texts.taskHeading content.toList)

def KeepsTask (block : TaskBlock) (task : Cursor × List Char) : Prop :=
  ∃ own, block.raw = trim own ∧ own <+: task.2 ∧ untilSection task.1.before task.2 <+: own

structure CardsKeepTasks (texts : Texts) (content : String) : Prop where
  named : (parseTaskBlocks content.toList).map (fun block => (block.id, block.title)) =
    (texts.parseTasks content).map fun task => (task.ref.toList, task.title.toList)
  whole : List.Forall₂ KeepsTask (parseTaskBlocks content.toList) (taskExtents texts content)

def frontText (texts : Texts) (content : String) : List Char :=
  match findIter texts.taskHeading content.toList with
  | [] => content.toList
  | found :: _ => found.1.before.reverse

def ReadAlike (texts : Texts) (content : String) : Prop :=
  ∀ place ∈ places [] content.toList, ends taskOpening place ≠ [] ∨ ends texts.taskHeading place ≠ [] →
    ∃ spaces digits gap name tail rest, Heading place spaces digits gap name tail rest

def Unbroken (texts : Texts) (content : String) : Prop :=
  ∀ task ∈ taskExtents texts content, ∀ front back, untilSection task.1.before task.2 = front ++ back → front ≠ [] →
    back ≠ [] → ends nextBoundary ⟨front.reverse ++ task.1.before, task.1.ahead.drop front.length, []⟩ = []

variable {texts : Texts} {content : String} {place finish : Cursor} {spaces digits gap name tail rest front back : List Char}
  {before start : List Char}

def EndsBlock (text : List Char) : Prop :=
  (∃ spaces digits gap rest, Marked text spaces digits gap rest) ∨
    ∃ spaces rest, text = "##".toList ++ (spaces ++ rest) ∧ spaces ≠ [] ∧ ∀ letter ∈ spaces, whiteSpace letter = true

theorem nextBoundary_iff : ends nextBoundary place ≠ [] ↔ opensLine place = true ∧ EndsBlock place.ahead := by
  have task : ends taskMark place ≠ [] ↔ ∃ spaces digits gap rest, Marked place.ahead spaces digits gap rest := by
    constructor
    · intro found
      obtain ⟨finish, member⟩ := List.exists_mem_of_ne_nil _ found
      obtain ⟨spaces, digits, gap, rest, marked, _⟩ := mem_taskMark.mp member
      exact ⟨spaces, digits, gap, rest, marked⟩
    · rintro ⟨spaces, digits, gap, rest, marked⟩
      exact List.ne_nil_of_mem (mem_taskMark.mpr ⟨spaces, digits, gap, rest, marked, rfl⟩)
  have section_ : ends sectionMark place ≠ [] ↔ ∃ spaces rest, place.ahead = "##".toList ++ (spaces ++ rest) ∧
      spaces ≠ [] ∧ ∀ letter ∈ spaces, whiteSpace letter = true := by
    have same : sectionMark = andThen (literal "##") (andThen (some whiteSpace) nothing) := rfl
    constructor
    · intro found
      obtain ⟨finish, member⟩ := List.exists_mem_of_ne_nil _ found
      rw [same, mem_ends_andThen] at member
      obtain ⟨middle, marks, last⟩ := member
      rw [ends_nothing_behind, mem_ends_some_iff] at last
      obtain ⟨tail, whole, rfl⟩ := mem_ends_literal_iff.mp marks
      obtain ⟨spaces, rest, more, filled, white, _⟩ := last
      exact ⟨spaces, rest, by rw [whole, ← more, Cursor.skip_ahead], filled, white⟩
    · rintro ⟨spaces, rest, whole, filled, white⟩
      have last : (place.skip "##".toList (spaces ++ rest)).skip spaces rest ∈
          ends (andThen (some whiteSpace) nothing) (place.skip "##".toList (spaces ++ rest)) := by
        rw [ends_nothing_behind]
        exact mem_ends_some_iff.mpr ⟨spaces, rest, rfl, filled, white, rfl⟩
      rw [same]
      exact List.ne_nil_of_mem (mem_ends_andThen.mpr ⟨_, mem_ends_literal_iff.mpr ⟨_, whole, rfl⟩, last⟩)
  rw [ends_nextBoundary, EndsBlock, ← task, ← section_]
  by_cases starts : opensLine place = true
  · rw [if_pos starts, Ne, List.append_eq_nil_iff, not_and_or]
    exact (and_iff_right starts).symm
  · rw [if_neg starts]
    exact ⟨fun absurd_ => absurd rfl absurd_, fun both => absurd both.1 starts⟩

theorem afterHeadingLine_split (start : List Char) : ∃ line, start = line ++ afterHeadingLine start ∧
    (afterHeadingLine start ≠ [] → ∃ body, line = body ++ ['\n'] ∧ '\n' ∉ body) := by
  have flat : '\n' ∉ start.takeWhile (· ≠ '\n') := fun member => by simpa using List.mem_takeWhile_imp member
  have split := List.takeWhile_append_dropWhile (p := fun letter => decide (letter ≠ '\n')) (l := start)
  have first := List.head?_dropWhile_not (fun letter => decide (letter ≠ '\n')) start
  unfold afterHeadingLine
  cases behind : start.dropWhile (· ≠ '\n') with
  | nil => exact ⟨start, by simp, fun filled => absurd rfl filled⟩
  | cons letter rest =>
      rw [behind] at split first
      obtain rfl : letter = '\n' := by simpa using first
      refine ⟨start.takeWhile (· ≠ '\n') ++ ['\n'], ?_, fun _ => ⟨_, rfl, flat⟩⟩
      rw [List.drop_one, List.tail_cons, List.append_assoc]
      exact split.symm

theorem findSome_places (pattern : Pattern) (before text : List Char) :
    ((places before text).findSome? (matchAt pattern) = none ∧ ∀ place ∈ places before text, ends pattern place = []) ∨
      ∃ read rest finish, text = read ++ rest ∧
        (places before text).findSome? (matchAt pattern) = .some (⟨read.reverse ++ before, rest, []⟩, finish) ∧
          ends pattern ⟨read.reverse ++ before, rest, []⟩ ≠ [] ∧
            ∀ front back, read = front ++ back → back ≠ [] →
              ends pattern ⟨front.reverse ++ before, back ++ rest, []⟩ = [] := by
  have here : ∀ {before rest : List Char} {finish : Cursor}, (ends pattern ⟨before, rest, []⟩).head? = .some finish →
      matchAt pattern ⟨before, rest, []⟩ = .some (⟨before, rest, []⟩, finish) := by
    intro before rest finish found
    rw [matchAt, found, Option.map_some]
  have nowhere : ∀ {before rest : List Char}, (ends pattern ⟨before, rest, []⟩).head? = none →
      matchAt pattern ⟨before, rest, []⟩ = none := by
    intro before rest none
    rw [matchAt, none, Option.map_none]
  have filled : ∀ {place finish : Cursor}, (ends pattern place).head? = .some finish → ends pattern place ≠ [] :=
    fun found => List.ne_nil_of_mem (List.mem_of_head? found)
  induction text generalizing before with
  | nil =>
      cases found : (ends pattern ⟨before, [], []⟩).head? with
      | none =>
          refine .inl ⟨by rw [places, List.findSome?_cons, nowhere found]; rfl, fun place member => ?_⟩
          rw [List.mem_singleton.mp member]
          exact List.head?_eq_none_iff.mp found
      | some finish =>
          refine .inr ⟨[], [], finish, rfl, by rw [places, List.findSome?_cons, here found]; rfl, filled found, ?_⟩
          intro front back same more
          exact absurd (List.append_eq_nil_iff.mp same.symm).2 more
  | cons letter text ih =>
      cases found : (ends pattern ⟨before, letter :: text, []⟩).head? with
      | some finish =>
          refine .inr ⟨[], letter :: text, finish, rfl, by rw [places, List.findSome?_cons, here found]; rfl,
            filled found, ?_⟩
          intro front back same more
          exact absurd (List.append_eq_nil_iff.mp same.symm).2 more
      | none =>
          have first := List.head?_eq_none_iff.mp found
          rw [places, List.findSome?_cons, nowhere found]
          rcases ih (letter :: before) with ⟨nothing, none⟩ | ⟨read, rest, finish, split, there, matched, early⟩
          · exact .inl ⟨nothing, List.forall_mem_cons.mpr ⟨first, none⟩⟩
          · refine .inr ⟨letter :: read, rest, finish, by rw [split, List.cons_append], by simpa using there,
              by simpa using matched, fun front back same more => ?_⟩
            cases front with
            | nil =>
                rw [List.nil_append] at same
                rw [← same, List.cons_append, ← split]
                exact first
            | cons other front =>
                obtain ⟨rfl, tails⟩ := List.cons.inj same
                simpa using early front back tails more

theorem exec_cases (pattern : Pattern) (text : List Char) :
    (exec pattern text = none ∧ ∀ place ∈ places [] text, ends pattern place = []) ∨
      ∃ read rest finish, text = read ++ rest ∧ exec pattern text = .some (⟨read.reverse, rest, []⟩, finish) ∧
        ends pattern ⟨read.reverse, rest, []⟩ ≠ [] ∧
          ∀ front back, read = front ++ back → back ≠ [] → ends pattern ⟨front.reverse, back ++ rest, []⟩ = [] := by
  have found := findSome_places pattern [] text
  simp only [List.append_nil] at found
  exact found

theorem blockText_cases (start : List Char) :
    blockText start = start ∧ (∀ place ∈ places [] (afterHeadingLine start), ends nextBoundary place = []) ∨
      ∃ line read rest, start = (line ++ ['\n']) ++ (read ++ rest) ∧ '\n' ∉ line ∧
        blockText start = (line ++ ['\n']) ++ read ∧ ends nextBoundary ⟨read.reverse, rest, []⟩ ≠ [] ∧
          ∀ front back, read = front ++ back → back ≠ [] → ends nextBoundary ⟨front.reverse, back ++ rest, []⟩ = [] := by
  obtain ⟨line, whole, broken⟩ := afterHeadingLine_split start
  have length : start.length - (afterHeadingLine start).length = line.length := by
    have both := congrArg List.length whole
    rw [List.length_append] at both
    omega
  rcases exec_cases nextBoundary (afterHeadingLine start) with ⟨nothing, none⟩ | ⟨read, rest, finish, split, found, here, early⟩
  · refine .inl ⟨?_, none⟩
    rw [blockText, nothing]
    exact List.take_of_length_le (by simp only; omega)
  · have filled : afterHeadingLine start ≠ [] := by
      obtain ⟨_, mark⟩ := nextBoundary_head here
      rw [split]
      intro empty
      obtain ⟨rfl, rfl⟩ := List.append_eq_nil_iff.mp empty
      simp at mark
    obtain ⟨body, rfl, flat⟩ := broken filled
    refine .inr ⟨body, read, rest, by rw [← split]; exact whole, flat, ?_, here, early⟩
    rw [blockText, found]
    simp only [length, List.length_reverse]
    rw [← List.length_append]
    conv => lhs; rw [whole, split, ← List.append_assoc]
    exact List.take_left' rfl

theorem opensLine_append (front : List Char) (mark : Char) (breaks : lineTerminator mark = true) (ahead ahead' : List Char) :
    opensLine ⟨front.reverse ++ mark :: before, ahead, []⟩ = opensLine ⟨front.reverse, ahead', []⟩ := by
  cases front using List.reverseRecOn with
  | nil => exact breaks
  | append_singleton front last => simp [opensLine]

theorem blockText_boundary (before start : List Char) : blockText start = start ∨
    ∃ behind, start = blockText start ++ behind ∧ blockText start ≠ [] ∧
      ends nextBoundary ⟨(blockText start).reverse ++ before, behind, []⟩ ≠ [] := by
  rcases blockText_cases start with ⟨whole, _⟩ | ⟨line, read, rest, split, _, own, here, _⟩
  · exact .inl whole
  · refine .inr ⟨rest, ?_, ?_, ?_⟩
    · rw [own, split, List.append_assoc, List.append_assoc, List.append_assoc]
    · rw [own]
      simp
    · obtain ⟨starts, ahead⟩ := nextBoundary_iff.mp here
      refine nextBoundary_iff.mpr ⟨?_, ahead⟩
      have same := @opensLine_append (line.reverse ++ before) read '\n' rfl rest rest
      rw [starts] at same
      rw [own]
      simpa using same

theorem blockText_front {passed behind : List Char} (whole : start = passed ++ behind) (line : '\n' ∈ passed)
    (found : ends nextBoundary ⟨passed.reverse ++ before, behind, []⟩ ≠ []) : blockText start <+: passed := by
  obtain ⟨front, more, rfl, flat⟩ : ∃ front more, passed = (front ++ ['\n']) ++ more ∧ '\n' ∉ front := by
    obtain ⟨front, more, rfl, flat⟩ := List.eq_append_cons_of_mem line
    exact ⟨front, more, by simp, flat⟩
  obtain ⟨opens, ends_⟩ := nextBoundary_iff.mp found
  have inside : ends nextBoundary ⟨more.reverse, behind, []⟩ ≠ [] := by
    refine nextBoundary_iff.mpr ⟨?_, ends_⟩
    rw [← @opensLine_append (front.reverse ++ before) more '\n' rfl behind behind]
    simpa using opens
  have lines : ∀ {line : List Char}, '\n' ∉ line → ∀ letter ∈ line, decide (letter ≠ '\n') = true := by
    intro line flat letter member
    rw [decide_eq_true_eq]
    rintro rfl
    exact flat member
  have split : start = front ++ '\n' :: (more ++ behind) := by simp [whole]
  rcases blockText_cases start with ⟨_, none⟩ | ⟨line, read, rest, cut, plain, own, _, early⟩
  · have after : afterHeadingLine start = more ++ behind := by
      rw [afterHeadingLine, split, List.dropWhile_append_of_pos (lines flat), List.dropWhile_cons_of_neg (by simp),
        List.drop_one, List.tail_cons]
    rw [after] at none
    exact absurd (none _ (mem_places.mpr ⟨more, behind, rfl, by simp⟩)) inside
  · rw [List.append_assoc, List.singleton_append] at cut
    obtain ⟨rfl, tails⟩ := stretch_unique (lines flat) (lines plain) (by decide) (by decide) (split.symm.trans cut)
    rw [own]
    refine (List.prefix_append_right_inj _).mpr ?_
    rcases List.append_eq_append_iff.mp tails with ⟨extra, rfl, later⟩ | ⟨extra, rfl, _⟩
    · cases extra with
      | nil => exact ⟨[], by rw [List.append_nil, List.append_nil]⟩
      | cons letter extra =>
          rw [later] at inside
          exact absurd (early more _ rfl (List.cons_ne_nil _ _)) inside
    · exact List.prefix_append _ _

theorem Heading.block (heading : Heading place spaces digits gap name tail rest) :
    parseSingleTaskBlock (blockText place.ahead) = .some {
      id := "T-".toList ++ digits, title := name, raw := trim (blockText place.ahead) } := by
  obtain ⟨more, own, closes⟩ : ∃ more,
      blockText place.ahead = ("###".toList ++ numberPart spaces digits gap) ++ (name ++ more) ∧ Closes more := by
    rcases blockText_boundary place.before place.ahead with whole | ⟨behind, split, filled, found⟩
    · exact ⟨tail ++ rest, by rw [whole, heading.text], heading.closes⟩
    · obtain ⟨more, own⟩ := heading.inside split filled found
      rw [List.append_assoc] at own
      refine ⟨more, own.symm, ?_⟩
      have text := heading.text.symm.trans split
      rw [← own] at text
      simp only [List.append_assoc] at text
      have tails := List.append_cancel_left (List.append_cancel_left (List.append_cancel_left text))
      have taken : more = (tail ++ rest).take more.length := by rw [tails, List.take_left' rfl]
      rw [taken]
      exact heading.closes.take _
  rw [own]
  exact heading.card closes

theorem places_pairwise (before ahead : List Char) : (places before ahead).Pairwise fun first later =>
    ∃ passed, passed ≠ [] ∧ first.ahead = passed ++ later.ahead ∧ later.before = passed.reverse ++ first.before := by
  induction ahead generalizing before with
  | nil => exact List.pairwise_singleton _ _
  | cons letter ahead ih =>
      refine List.pairwise_cons.mpr ⟨fun later member => ?_, ih _⟩
      obtain ⟨read, rest, rfl, rfl⟩ := mem_places.mp member
      exact ⟨letter :: read, List.cons_ne_nil _ _, rfl, by simp⟩

theorem places_behind (member : place ∈ places [] start) (whole : place.ahead = front ++ back) :
    (⟨front.reverse ++ place.before, back, []⟩ : Cursor) ∈ places [] start := by
  obtain ⟨read, rest, rfl, rfl⟩ := mem_places.mp member
  obtain rfl : rest = front ++ back := whole
  exact mem_places.mpr ⟨read ++ front, back, by simp, by simp⟩

theorem findIter_taskLine (text : List Char) :
    findIter taskLine text = (places [] text).filterMap (matchAt taskLine) := by
  refine search_eq_filterMap (Nat.lt_succ_self _) fun found member => ?_
  obtain ⟨here, _⟩ := mem_search member
  exact alone_taskLine here

theorem ReadAlike.findIter_taskHeading (alike : ReadAlike texts content) (standard : texts.Standard)
    (decimals : Decimals texts) : findIter texts.taskHeading content.toList =
      (places [] content.toList).filterMap (matchAt texts.taskHeading) := by
  refine search_eq_filterMap (Nat.lt_succ_self _) fun found member => ?_
  obtain ⟨here, _⟩ := mem_search member
  have place := mem_search_places member
  obtain ⟨spaces, digits, gap, name, tail, rest, heading⟩ := alike found.1 place (.inr (List.ne_nil_of_mem here))
  refine heading.alone standard decimals here fun front back split filled inside => ?_
  obtain ⟨_, _, _, _, _, _, other⟩ := alike _ (places_behind place split) (.inr inside)
  exact nextBoundary_of_opening other.opening

def cardOf (found : Cursor × Cursor) : TaskBlock where
  id := found.2.groups.tail.headD []
  title := (strip (String.ofList (found.2.groups.headD []))).toList
  raw := trim (blockText found.1.ahead)

theorem matchAt_none {pattern : Pattern} (nothing : ends pattern place = []) : matchAt pattern place = none := by
  rw [matchAt, nothing]
  rfl

theorem ReadAlike.card_eq (alike : ReadAlike texts content) (standard : texts.Standard) (decimals : Decimals texts)
    (member : place ∈ places [] content.toList) :
    ((matchAt taskLine place).bind fun found => parseSingleTaskBlock (blockText found.1.ahead)) =
      (matchAt texts.taskHeading place).map cardOf := by
  by_cases either_ : ends taskOpening place ≠ [] ∨ ends texts.taskHeading place ≠ []
  · obtain ⟨spaces, digits, gap, name, tail, rest, heading⟩ := alike place member either_
    obtain ⟨finish, found, id, title⟩ := heading.python standard decimals
    obtain ⟨front, others, here⟩ := List.exists_cons_of_ne_nil (taskLine_iff.mpr heading.opening)
    rw [matchAt, here, List.head?_cons, Option.map_some, Option.bind_some, heading.block, matchAt, found, Option.map_some,
      Option.map_some, cardOf, id, title]
  · obtain ⟨front, python⟩ := not_or.mp either_
    have line : ends taskLine place = [] := by
      by_contra found
      exact front (taskLine_iff.mp found)
    rw [matchAt_none line, matchAt_none (not_not.mp python)]
    rfl

theorem ReadAlike.blocks (alike : ReadAlike texts content) (standard : texts.Standard) (decimals : Decimals texts) :
    parseTaskBlocks content.toList = (findIter texts.taskHeading content.toList).map cardOf := by
  rw [parseTaskBlocks, findIter_taskLine, List.filterMap_filterMap, alike.findIter_taskHeading standard decimals,
    List.map_filterMap]
  exact List.filterMap_congr fun place member => alike.card_eq standard decimals member

theorem tasksOf_named (texts : Texts) (seen : List String) (cuts : List TaskCut) :
    (tasksOf texts seen cuts).map (fun task => (task.ref.toList, task.title.toList)) =
      cuts.map fun cut => (cut.ref, (strip (String.ofList cut.name)).toList) := by
  induction cuts generalizing seen with
  | nil => rfl
  | cons cut rest ih =>
      rw [tasksOf, List.map_cons, List.map_cons, ih, String.toList_ofList]

theorem parseTasks_named (texts : Texts) (content : String) :
    (texts.parseTasks content).map (fun task => (task.ref.toList, task.title.toList)) =
      (findIter texts.taskHeading content.toList).map fun found => ((cardOf found).id, (cardOf found).title) := by
  rw [parseTasks_eq, tasksOf_named, scan, List.map_map, findIter]
  refine List.map_congr_left fun found _ => ?_
  rw [Function.comp_apply, cardOf, cutOf]

theorem untilSection_front (before text : List Char) : untilSection before text <+: text := by
  induction text generalizing before with
  | nil => exact List.prefix_rfl
  | cons letter rest ih =>
      rw [untilSection]
      split
      · exact List.nil_prefix
      · exact (List.prefix_cons_inj letter).mpr (ih _)

theorem keepsTask_front {found : Cursor × Cursor} {extent : List Char} (whole : extent <+: found.1.ahead)
    (inside : blockText found.1.ahead <+: extent)
    (unbroken : ∀ front back, untilSection found.1.before extent = front ++ back → front ≠ [] → back ≠ [] →
      ends nextBoundary ⟨front.reverse ++ found.1.before, found.1.ahead.drop front.length, []⟩ = []) :
    KeepsTask (cardOf found) (found.1, extent) := by
  refine ⟨blockText found.1.ahead, rfl, inside, ?_⟩
  have region := (untilSection_front found.1.before extent).trans whole
  rcases blockText_boundary found.1.before found.1.ahead with all | ⟨behind, split, filled, ends_⟩
  · rw [all]
    exact region
  · rcases List.prefix_or_prefix_of_prefix region (inside.trans whole) with short | ⟨more, long⟩
    · exact short
    · cases more with
      | nil =>
          rw [List.append_nil] at long
          exact ⟨[], by rw [List.append_nil, long]⟩
      | cons letter more =>
          have none := unbroken _ _ long.symm filled (List.cons_ne_nil _ _)
          have rest : found.1.ahead.drop (blockText found.1.ahead).length = behind :=
            (congrArg (List.drop (blockText found.1.ahead).length) split).trans (List.drop_left' rfl)
          rw [rest] at none
          exact absurd none ends_

def Ordered (headings : List (Cursor × Cursor)) : Prop := headings.Pairwise fun first later =>
  ∃ passed, passed ≠ [] ∧ first.1.ahead = passed ++ later.1.ahead ∧ later.1.before = passed.reverse ++ first.1.before

theorem keepsTasks {headings : List (Cursor × Cursor)} (ordered : Ordered headings)
    (starts : ∀ found ∈ headings, found.1.startsLine = true ∧ ends nextBoundary ⟨found.1.before, found.1.ahead, []⟩ ≠ [])
    (unbroken : ∀ task ∈ extents headings, ∀ front back, untilSection task.1.before task.2 = front ++ back → front ≠ [] →
      back ≠ [] → ends nextBoundary ⟨front.reverse ++ task.1.before, task.1.ahead.drop front.length, []⟩ = []) :
    List.Forall₂ KeepsTask (headings.map cardOf) (extents headings) := by
  induction headings with
  | nil => exact .nil
  | cons found following ih =>
      obtain ⟨first, later⟩ := List.pairwise_cons.mp ordered
      obtain ⟨here, others⟩ := List.forall_mem_cons.mp unbroken
      refine .cons (keepsTask_front (List.take_prefix _ _) ?_ here)
        (ih later (fun found member => starts found (List.mem_cons_of_mem _ member)) others)
      cases following with
      | nil =>
          rw [List.head?_nil, Option.map_none, Option.getD_none, Nat.sub_zero, List.take_length]
          exact List.take_prefix _ _
      | cons next following =>
          obtain ⟨passed, filled, whole, behind⟩ := first next List.mem_cons_self
          obtain ⟨line, found_⟩ := starts next (List.mem_cons_of_mem _ List.mem_cons_self)
          rw [Cursor.startsLine, behind] at line
          obtain ⟨body, last, same, breaks⟩ := last_of_starts filled line
          have inside : '\n' ∈ passed := by
            obtain rfl : last = '\n' := by simpa using breaks
            simp [same]
          rw [behind] at found_
          have extent : found.1.ahead.take (found.1.ahead.length - next.1.ahead.length) = passed := by
            rw [whole, List.length_append, Nat.add_sub_cancel, List.take_left' rfl]
          rw [List.head?_cons, Option.map_some, Option.getD_some, extent]
          exact blockText_front whole inside found_

theorem ReadAlike.ordered (alike : ReadAlike texts content) (standard : texts.Standard) (decimals : Decimals texts) :
    Ordered (findIter texts.taskHeading content.toList) := by
  rw [alike.findIter_taskHeading standard decimals]
  refine List.Pairwise.filterMap _ (fun first later behind found foundAt next nextAt => ?_) (places_pairwise _ _)
  obtain ⟨_, _, rfl⟩ := Option.map_eq_some_iff.mp foundAt
  obtain ⟨_, _, rfl⟩ := Option.map_eq_some_iff.mp nextAt
  exact behind

theorem ReadAlike.heading (alike : ReadAlike texts content) {found : Cursor × Cursor}
    (member : found ∈ findIter texts.taskHeading content.toList) : ∃ spaces digits gap name tail rest,
      Heading found.1 spaces digits gap name tail rest :=
  alike found.1 (mem_search_places member) (.inr (List.ne_nil_of_mem (mem_search member).1))

theorem ReadAlike.starts (alike : ReadAlike texts content) {found : Cursor × Cursor}
    (member : found ∈ findIter texts.taskHeading content.toList) :
    found.1.startsLine = true ∧ ends nextBoundary ⟨found.1.before, found.1.ahead, []⟩ ≠ [] := by
  obtain ⟨_, _, _, _, _, _, heading⟩ := alike.heading member
  have bounds := nextBoundary_iff.mp (nextBoundary_of_opening heading.opening)
  exact ⟨heading.starts, nextBoundary_iff.mpr bounds⟩

theorem matchAt_place (pattern : Pattern) (place : Cursor) :
    (matchAt pattern place).map (·.1) = if ends pattern place = [] then none else .some place := by
  rw [matchAt]
  cases found : ends pattern place with
  | nil => rfl
  | cons finish others => rfl

theorem exec_place (pattern : Pattern) (text : List Char) : (exec pattern text).map (·.1) =
    ((places [] text).filterMap fun place => if ends pattern place = [] then none else .some place).head? := by
  rw [exec, ← List.head?_filterMap, ← List.head?_map, List.map_filterMap]
  exact congrArg List.head? (List.filterMap_congr fun place _ => matchAt_place pattern place)

theorem ReadAlike.first (alike : ReadAlike texts content) (standard : texts.Standard) (decimals : Decimals texts) :
    (exec taskOpening content.toList).map (·.1) = (findIter texts.taskHeading content.toList).head?.map (·.1) := by
  rw [exec_place, alike.findIter_taskHeading standard decimals, ← List.head?_map, List.map_filterMap]
  refine congrArg List.head? (List.filterMap_congr fun place member => ?_)
  rw [matchAt_place]
  by_cases either_ : ends taskOpening place ≠ [] ∨ ends texts.taskHeading place ≠ []
  · obtain ⟨_, _, _, _, _, _, heading⟩ := alike place member either_
    obtain ⟨finish, found, _⟩ := heading.python standard decimals
    rw [if_neg heading.opening, if_neg (List.ne_nil_of_mem (List.mem_of_head? found))]
  · obtain ⟨front, python⟩ := not_or.mp either_
    rw [if_pos (not_not.mp front), if_pos (not_not.mp python)]

def shownFront (texts : Texts) (content : String) : List Char :=
  if findIter texts.taskHeading content.toList = [] then content.toList else trim (frontText texts content)

theorem ReadAlike.frontMatter (alike : ReadAlike texts content) (standard : texts.Standard) (decimals : Decimals texts) :
    extractTaskFrontMatter content.toList = shownFront texts content := by
  have first := alike.first standard decimals
  rw [extractTaskFrontMatter, shownFront, frontText]
  cases found : findIter texts.taskHeading content.toList with
  | nil =>
      rw [found] at first
      rw [Option.map_eq_none_iff.mp first, if_pos rfl]
  | cons task following =>
      rw [found] at first
      obtain ⟨opening, here, same⟩ := Option.map_eq_some_iff.mp first
      rw [here, if_neg (List.cons_ne_nil _ _)]
      exact congrArg (fun place : Cursor => trim place.before.reverse) same

theorem sampleTexts_decimals : Decimals Integrations.sampleTexts := by
  intro letter digit
  have range : '0' ≤ letter ∧ letter ≤ '9' := by simpa [decimal] using digit
  show Option.isSome (if '0' ≤ letter ∧ letter ≤ '9' then _ else _) = true
  rw [if_pos range]
  rfl

theorem plainTask_alike : ReadAlike Integrations.sampleTexts "### T-1: A" := by
  have only : ∀ place ∈ places [] "### T-1: A".toList, place = ⟨[], "### T-1: A".toList, []⟩ ∨
      ends taskOpening place = [] ∧ ends Integrations.sampleTexts.taskHeading place = [] := by decide
  intro place member found
  rcases only place member with rfl | ⟨front, python⟩
  · have blank : White [' '] := by decide
    have ink : Ink 'A' := by decide
    exact ⟨[' '], ['1'], [' '], ['A'], [], [], by decide, by decide, ⟨by decide, blank⟩,
      ⟨by decide, List.forall_mem_singleton.mpr rfl⟩, ⟨by decide, blank⟩, by decide, by simpa using ink, by simpa using ink,
      List.forall_mem_singleton.mpr rfl, List.forall_mem_nil _, rfl, by decide⟩
  · exact absurd found (by simp [front, python])

theorem plainTask_unbroken : Unbroken Integrations.sampleTexts "### T-1: A" := by
  have only : ∀ task ∈ taskExtents Integrations.sampleTexts "### T-1: A",
      ∀ count < (untilSection task.1.before task.2).length, 0 < count → ends nextBoundary
        ⟨((untilSection task.1.before task.2).take count).reverse ++ task.1.before, task.1.ahead.drop count, []⟩ = [] := by
    decide
  intro task member front back split filled more
  have inside := only task member front.length
  rw [split, List.length_append, List.take_left' rfl] at inside
  exact inside (Nat.lt_add_of_pos_right (List.length_pos_iff.mpr more)) (List.length_pos_iff.mpr filled)

def splitDocument : String := "Intro\n\n### T-1: A\n```\n## x\n```\n### T-2 : B"

end Thought2Build.Client
