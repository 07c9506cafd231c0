import Mathlib.Data.List.Flatten
import Thought2Build.Integrations.TaskReaders
import Thought2Build.Library.Readings
import Thought2Build.Pipeline.Dedupe
import Thought2Build.Pipeline.HarnessIndex
import Thought2Build.Pipeline.ProblemClamp
import Thought2Build.Pipeline.UpstreamSections

/-!
What the ladder keeps of the normative lines: each pass keeps them in their order, as long as it takes none of their
blocks for narrative and cuts no white space off them.
-/

namespace Thought2Build.Pipeline

open Patterns Pattern
open Integrations (Texts sampleTexts sampleTexts_standard)

namespace Compressor

variable {texts : Texts} {judge : Judge} {text raw line block : DocText} {budget : Nat} {lines blocks : List DocText}

def normativeLines (texts : Texts) (text : DocText) : List DocText :=
  (text.splitOn '\n').filter (isNormativeLine texts)

def linesOf (blocks : List DocText) : List DocText := blocks.flatMap (·.splitOn '\n')

section

attribute [local simp] joinBlocks keptFrom rstrip DocText.strip utf8Length

end

theorem linesOf_cons (block : DocText) (blocks : List DocText) :
    linesOf (block :: blocks) = block.splitOn '\n' ++ linesOf blocks := List.flatMap_cons

theorem splitOn_joinLines (plain : ∀ line ∈ lines, '\n' ∉ line) (some : lines ≠ []) :
    (joinLines lines).splitOn '\n' = lines :=
  List.splitOn_intercalate '\n' plain some

theorem linesOf_joinBlocks (blocks : List DocText) : (linesOf blocks).Sublist ((joinBlocks blocks).splitOn '\n') := by
  induction blocks with
  | nil => exact List.nil_sublist _
  | cons block rest ih =>
      cases rest with
      | nil => simp [linesOf, joinBlocks]
      | cons next more =>
          have whole : joinBlocks (block :: next :: more) =
              block ++ '\n' :: ([] ++ '\n' :: joinBlocks (next :: more)) := by
            simp [joinBlocks, List.intercalate_cons_cons]
          rw [whole, List.splitOn_append_cons_self, List.splitOn_append_cons_self, linesOf_cons]
          exact (List.Sublist.refl _).append (ih.trans (List.sublist_append_right ..))

theorem ends_boundary_blank {cursor : Cursor} (behind : ∀ letter ∈ cursor.before, texts.isWord letter = false)
    (ahead : ∀ letter ∈ cursor.ahead, texts.isWord letter = false) (rest : List Pattern) :
    ends (Pattern.sequence (boundary texts.isWord :: rest)) cursor = [] := by
  have left : cursor.before.head?.any texts.isWord = false := by
    cases before : cursor.before with
    | nil => rfl
    | cons letter more => exact behind letter (by simp [before])
  have right : cursor.ahead.head?.any texts.isWord = false := by
    cases later : cursor.ahead with
    | nil => rfl
    | cons letter more => exact ahead letter (by simp [later])
  change (ends (boundary texts.isWord) cursor).flatMap _ = []
  rw [ends, left, right]
  simp

theorem searches_boundary_blank (plain : ∀ letter ∈ line, texts.isWord letter = false) (rest : List Pattern) :
    searches (Pattern.sequence (boundary texts.isWord :: rest)) line = false := by
  have none : findIter (Pattern.sequence (boundary texts.isWord :: rest)) line = [] := by
    refine List.eq_nil_iff_forall_not_mem.mpr ?_
    rintro ⟨cursor, finish⟩ found
    obtain ⟨ended, skipped, whole, behind⟩ := mem_search found
    change line = skipped ++ cursor.ahead at whole
    have before : ∀ letter ∈ cursor.before, texts.isWord letter = false := by
      intro letter member
      rw [behind, List.append_nil, List.mem_reverse] at member
      exact plain letter (whole ▸ List.mem_append_left _ member)
    have ahead : ∀ letter ∈ cursor.ahead, texts.isWord letter = false := fun letter member =>
      plain letter (whole ▸ List.mem_append_right _ member)
    rw [ends_boundary_blank before ahead] at ended
    simp at ended
  rw [searches, none]
  rfl

theorem inked_one {meets : Char → Bool} (dark : ∀ letter, meets letter = true → isSpace letter = false) :
    Inked (one meets) := by
  intro cursor finish found
  obtain ⟨letter, good, ahead⟩ := mem_ends_one found
  exact ⟨letter, by simp [ahead], dark letter good⟩

theorem inked_listMark (texts : Texts) : Inked (listMark texts) := by
  have bullet : ∀ letter, (letter = '-' || letter = '*' || letter = '+' : Bool) = true → isSpace letter = false := by
    intro letter good
    rcases (by simpa [or_assoc] using good : letter = '-' ∨ letter = '*' ∨ letter = '+') with rfl | rfl | rfl <;> decide
  have dot : ∀ letter, (letter = '.' || letter = ')' : Bool) = true → isSpace letter = false := by
    intro letter good
    rcases (by simpa using good : letter = '.' ∨ letter = ')') with rfl | rfl <;> decide
  exact .later (.later (.here (.either (.here (inked_one bullet)) (.later (.here (inked_one dot))))))

theorem strip_ne_nil (standard : texts.Standard) (normative : isNormativeLine texts line = true) :
    DocText.strip line ≠ [] := by
  intro blank
  have spaces := DocText.strip_eq_nil.mp blank
  have plain : ∀ letter ∈ line, texts.isWord letter = false := fun letter member =>
    standard.space letter (spaces letter member)
  have table : line.contains '|' = false := by
    rw [List.contains_eq_mem, decide_eq_false_iff_not]
    intro member
    exact absurd (spaces '|' member) (by decide)
  have list : (matchStart (listMark texts) line).isSome = false := by
    rw [matchStart]
    cases found : (ends (listMark texts) { ahead := line }).head? with
    | none => rfl
    | some finish =>
        obtain ⟨letter, member, dark⟩ := inked_listMark texts _ finish (List.mem_of_head? found)
        rw [spaces letter member] at dark
        contradiction
  have ids : searches (summaryRequirementId texts) line = false := searches_boundary_blank plain _
  have modals : searches (modal texts) line = false := searches_boundary_blank plain _
  rw [isNormativeLine, table, list, ids, modals] at normative
  contradiction

theorem kept_normative (inFence : Bool) (lines : List DocText) :
    (lines.filter (isNormativeLine texts)).Sublist (keptFrom texts inFence lines) := by
  induction lines generalizing inFence with
  | nil => exact .slnil
  | cons line rest ih =>
      have next : ∀ inFence, ((line :: rest).filter (isNormativeLine texts)).Sublist
          (line :: keptFrom texts inFence rest) := by
        intro inFence
        rw [List.filter_cons]
        split
        · exact (ih inFence).cons_cons line
        · exact (ih inFence).cons line
      rw [keptFrom]
      split
      · exact next _
      · split
        · exact next true
        · split
          · exact next false
          · rename_i narrative
            rw [List.filter_cons_of_neg narrative]
            dsimp only
            split
            · exact ih false
            · exact (ih false).cons _

theorem collapseRuns_plain {pending : DocText} (before : '\n' ∉ pending) (plain : '\n' ∉ line) :
    '\n' ∉ collapseRuns pending line := by
  have flushed : ∀ {pending : DocText}, '\n' ∉ pending → '\n' ∉ (if pending.length < 2 then pending else [' ']) := by
    intro pending before
    split
    · exact before
    · decide
  induction line generalizing pending with
  | nil => exact flushed before
  | cons letter rest ih =>
      obtain ⟨other, later⟩ := not_or.mp (mt List.mem_cons.mpr plain)
      rw [collapseRuns]
      split
      · exact ih (by simpa using ⟨before, other⟩) later
      · rw [List.mem_append, List.mem_cons, not_or, not_or]
        exact ⟨flushed before, other, ih (by simp) later⟩

theorem kept_plain {inFence : Bool} (plain : ∀ line ∈ lines, '\n' ∉ line) :
    ∀ line ∈ keptFrom texts inFence lines, '\n' ∉ line := by
  induction lines generalizing inFence with
  | nil => simp [keptFrom]
  | cons line rest ih =>
      obtain ⟨here, later⟩ := List.forall_mem_cons.mp plain
      rw [keptFrom]
      split
      · exact List.forall_mem_cons.mpr ⟨here, ih later⟩
      · split
        · exact List.forall_mem_cons.mpr ⟨here, ih later⟩
        · split
          · exact List.forall_mem_cons.mpr ⟨here, ih later⟩
          · dsimp only
            have thinned : '\n' ∉ line.filter (· ≠ '\x0c') := fun member => here (List.mem_of_mem_filter member)
            split
            · exact ih later
            · refine List.forall_mem_cons.mpr ⟨?_, ih later⟩
              split
              · exact thinned
              · unfold collapseInternalSpaces
                rw [List.mem_append, not_or]
                exact ⟨fun member => thinned ((List.takeWhile_sublist _).mem member),
                  collapseRuns_plain (by simp) fun member => thinned ((List.dropWhile_sublist _).mem member)⟩

theorem blocksFrom_lines {keeps : DocText → Bool} (dark : ∀ line, keeps line = true → DocText.strip line ≠ [])
    {inFence : Bool} {current : List DocText} (before : ∀ line ∈ current, '\n' ∉ line)
    (plain : ∀ line ∈ lines, '\n' ∉ line) :
    (current ++ lines.filter keeps).Sublist (linesOf (blocksFrom inFence current lines)) := by
  induction lines generalizing inFence current with
  | nil =>
      rw [List.filter_nil, List.append_nil, blocksFrom]
      split
      · rename_i none
        rw [none]
        exact List.nil_sublist _
      · rename_i some
        rw [linesOf, List.flatMap_singleton, splitOn_joinLines before some]
  | cons line rest ih =>
      obtain ⟨here, later⟩ := List.forall_mem_cons.mp plain
      have next : ∀ inFence, (current ++ (line :: rest).filter keeps).Sublist
          (linesOf (blocksFrom inFence (current ++ [line]) rest)) := by
        intro inFence
        have begun : ∀ other ∈ current ++ [line], '\n' ∉ other := by
          intro other member
          rcases List.mem_append.mp member with old | new
          · exact before other old
          · rwa [List.mem_singleton.mp new]
        refine List.Sublist.trans ?_ (ih begun later)
        rw [List.append_assoc, List.filter_cons]
        refine (List.Sublist.refl _).append ?_
        split
        · exact .refl _
        · exact .cons _ (.refl _)
      rw [blocksFrom]
      split
      · exact next _
      · split
        · exact next true
        · split
          · rename_i blank
            have none_plain : ∀ line ∈ ([] : List DocText), '\n' ∉ line := fun _ member => by simp at member
            have lost : ¬keeps line = true := fun kept => dark line kept blank
            rw [List.filter_cons_of_neg lost]
            split
            · rename_i none
              rw [none]
              exact ih none_plain later
            · rename_i some
              rw [linesOf_cons, splitOn_joinLines before some]
              exact (List.Sublist.refl _).append (ih none_plain later)
          · exact next false

theorem splitBlocks_lines {keeps : DocText → Bool} (dark : ∀ line, keeps line = true → DocText.strip line ≠ [])
    (text : DocText) : ((text.splitOn '\n').filter keeps).Sublist (linesOf (splitBlocks text)) := by
  have none : ∀ line ∈ ([] : List DocText), '\n' ∉ line := fun _ member => by simp at member
  exact blocksFrom_lines dark none fun _ member => newline_not_mem member

def droppedFrom (texts : Texts) (seen : List DocText) : List DocText → List DocText
  | [] => []
  | block :: rest =>
      if seen.contains (DocText.strip block) && !isNormativeBlock texts block then block :: droppedFrom texts seen rest
      else droppedFrom texts (DocText.strip block :: seen) rest

def NoNormativeLines (texts : Texts) (blocks : List DocText) : Prop :=
  ∀ line ∈ linesOf blocks, isNormativeLine texts line = false

theorem distinct_lines {seen : List DocText} (none : NoNormativeLines texts (droppedFrom texts seen blocks)) :
    ((linesOf blocks).filter (isNormativeLine texts)).Sublist (linesOf (distinctFrom texts seen blocks)) := by
  induction blocks generalizing seen with
  | nil => exact .slnil
  | cons block rest ih =>
      rw [droppedFrom] at none
      rw [linesOf_cons, List.filter_append, distinctFrom]
      split
      · rename_i repeated
        rw [if_pos repeated] at none
        have here : ((block.splitOn '\n').filter (isNormativeLine texts)) = [] := by
          refine List.filter_eq_nil_iff.mpr fun line member => ?_
          simp [none line (List.mem_flatMap.mpr ⟨block, List.mem_cons_self, member⟩)]
        rw [here, List.nil_append]
        exact ih fun line member => none line (List.mem_append_right _ member)
      · rename_i fresh
        rw [if_neg fresh] at none
        rw [linesOf_cons]
        exact List.filter_sublist.append (ih none)

def repeatedBlocks (texts : Texts) (raw : DocText) : List DocText :=
  droppedFrom texts [] (splitBlocks (joinLines (keptFrom texts false (raw.splitOn '\n'))))

theorem normative_filter (kept : (normativeLines texts raw).Sublist lines) :
    (normativeLines texts raw).Sublist (lines.filter (isNormativeLine texts)) := by
  have again := kept.filter (isNormativeLine texts)
  rwa [normativeLines, List.filter_filter, show (fun line => isNormativeLine texts line && isNormativeLine texts line) =
    isNormativeLine texts from funext fun _ => Bool.and_self _] at again

theorem cleanup_lines (standard : texts.Standard) (none : NoNormativeLines texts (repeatedBlocks texts raw)) :
    (normativeLines texts raw).Sublist ((rung1Cleanup texts raw).splitOn '\n') := by
  have dark : ∀ line, isNormativeLine texts line = true → DocText.strip line ≠ [] := fun _ => strip_ne_nil standard
  have kept : (normativeLines texts raw).Sublist (keptFrom texts false (raw.splitOn '\n')) := kept_normative false _
  have joined : (keptFrom texts false (raw.splitOn '\n')).Sublist
      ((joinLines (keptFrom texts false (raw.splitOn '\n'))).splitOn '\n') := by
    by_cases empty : keptFrom texts false (raw.splitOn '\n') = []
    · rw [empty]
      exact List.nil_sublist _
    · rw [splitOn_joinLines (kept_plain fun _ member => newline_not_mem member) empty]
  have blocks := (normative_filter (kept.trans joined)).trans (splitBlocks_lines dark _)
  exact ((normative_filter blocks).trans (distinct_lines none)).trans (linesOf_joinBlocks _)

theorem findTexts_of_searches {pattern : Pattern} (none : searches pattern text = false) :
    findTexts pattern text = [] := by
  have empty : findIter pattern text = [] := List.isEmpty_iff.mp (by simpa [searches] using none)
  rw [findTexts, empty, List.map_nil]

theorem findAll_lines (standard : texts.Standard) (text : DocText) : findAll (summaryRequirementId texts) text =
    (text.splitOn '\n').flatMap (findAll (summaryRequirementId texts)) := by
  have cut : (summaryRequirementId texts).cutBy '\n' = true := summaryRequirementId_cut standard (by decide)
  have empty : findTexts (summaryRequirementId texts) [] = [] :=
    findTexts_of_searches (searches_boundary_blank (by simp) _)
  have lines := findTexts_linesBehind cut (text.splitOn '\n') []
  have whole := findTexts_cut cut [] text
  rw [List.nil_append, linesBehind_splitOn, List.flatMap_cons, empty, List.nil_append] at lines
  rw [List.nil_append, empty, List.nil_append, lines] at whole
  rw [findAll, ← whole, List.map_flatMap]
  rfl

theorem flatMap_filter {α β : Type} {keeps : α → Bool} {reads : α → List β} {items : List α}
    (none : ∀ item ∈ items, keeps item = false → reads item = []) :
    (items.filter keeps).flatMap reads = items.flatMap reads := by
  induction items with
  | nil => rfl
  | cons item rest ih =>
      obtain ⟨here, later⟩ := List.forall_mem_cons.mp none
      cases kept : keeps item with
      | true => rw [List.filter_cons_of_pos kept, List.flatMap_cons, List.flatMap_cons, ih later]
      | false => rw [List.filter_cons_of_neg (by simp [kept]), List.flatMap_cons, here kept, ih later, List.nil_append]

theorem findAll_normativeLines (standard : texts.Standard) (text : DocText) :
    findAll (summaryRequirementId texts) text =
    (normativeLines texts text).flatMap (findAll (summaryRequirementId texts)) := by
  rw [findAll_lines standard, normativeLines]
  refine (flatMap_filter fun line _ narrative => ?_).symm
  have none : searches (summaryRequirementId texts) line = false := by
    unfold isNormativeLine at narrative
    simp only [Bool.or_eq_false_iff] at narrative
    exact narrative.1.2
  rw [findAll, findTexts_of_searches none, List.map_nil]

theorem ids_of_lines (standard : texts.Standard) {result : DocText}
    (kept : (normativeLines texts raw).Sublist (result.splitOn '\n')) :
    (findAll (summaryRequirementId texts) raw).Sublist (findAll (summaryRequirementId texts) result) := by
  rw [findAll_normativeLines standard, findAll_lines standard result]
  exact kept.flatMap _

theorem rstrip_append_blank {back : DocText} (blank : ∀ letter ∈ back, isSpace letter = true) (front : DocText) :
    rstrip (front ++ back) = rstrip front := by
  unfold rstrip List.rdropWhile
  rw [List.reverse_append, List.dropWhile_append_of_pos (by simpa using blank)]

theorem rstrip_append_dark {back : DocText} (dark : ∃ letter ∈ back, isSpace letter = false) (front : DocText) :
    rstrip (front ++ back) = front ++ rstrip back := by
  have some : back.reverse.dropWhile isSpace ≠ [] := by
    obtain ⟨letter, member, ink⟩ := dark
    intro none
    have blank := List.dropWhile_eq_nil_iff.mp none letter (by simpa using member)
    rw [ink] at blank
    contradiction
  unfold rstrip List.rdropWhile
  rw [List.reverse_append, List.dropWhile_append, if_neg (by simpa using some), List.reverse_append,
    List.reverse_reverse]

theorem rstrip_of_last (last : text.getLast?.all (fun letter => !isSpace letter) = true) : rstrip text = text := by
  unfold rstrip
  refine List.rdropWhile_eq_self_iff.mpr fun some => ?_
  rw [List.getLast?_eq_some_getLast some] at last
  simpa using last

theorem beforeLast_append {letter : Char} {back : DocText} (member : letter ∈ back) (front : DocText) :
    beforeLast letter (front ++ back) = front ++ beforeLast letter back := by
  have some : back.reverse.dropWhile (· ≠ letter) ≠ [] := by
    intro none
    have other := List.dropWhile_eq_nil_iff.mp none letter (by simpa using member)
    simp at other
  obtain ⟨first, rest, behind⟩ := List.exists_cons_of_ne_nil some
  unfold beforeLast
  rw [List.reverse_append, List.dropWhile_append, if_neg (by simpa using some), behind]
  simp

theorem beforeLast_self {letter : Char} {back : DocText} (plain : letter ∉ back) (front : DocText) :
    beforeLast letter (front ++ letter :: back) = front := by
  have other : ∀ other ∈ back.reverse, decide (other ≠ letter) = true := by
    intro other member
    exact decide_eq_true fun same => plain (same ▸ List.mem_reverse.mp member)
  unfold beforeLast
  rw [List.reverse_append, List.reverse_cons, List.append_assoc, List.dropWhile_append_of_pos other]
  simp

structure Trimmed (text : DocText) : Prop where
  first : text.head?.all (fun letter => !isSpace letter) = true
  last : text.getLast?.all (fun letter => !isSpace letter) = true

theorem strip_of_trimmed (trimmed : Trimmed text) : DocText.strip text = text := by
  have front : text.dropWhile isSpace = text := by
    cases text with
    | nil => rfl
    | cons letter rest =>
        have dark : isSpace letter = false := by simpa using trimmed.first
        rw [List.dropWhile_cons_of_neg (by simp [dark])]
  rw [DocText.strip, front]
  exact rstrip_of_last trimmed.last

theorem trimmed_strip (text : DocText) : Trimmed (DocText.strip text) := by
  constructor
  · unfold DocText.strip
    cases front : text.dropWhile isSpace with
    | nil => rfl
    | cons letter rest =>
        have some : text.dropWhile isSpace ≠ [] := by simp [front]
        have dark : isSpace letter = false := by
          have head := List.head_dropWhile_not isSpace some
          simpa [front] using head
        have kept := List.rdropWhile_prefix isSpace (letter :: rest)
        cases shown : (letter :: rest).rdropWhile isSpace with
        | nil => rfl
        | cons first more =>
            rw [shown] at kept
            obtain ⟨back, whole⟩ := kept
            obtain ⟨rfl, _⟩ := List.cons.inj whole
            simp [dark]
  · unfold DocText.strip
    by_cases none : (text.dropWhile isSpace).rdropWhile isSpace = []
    · rw [none]
      rfl
    · rw [List.getLast?_eq_some_getLast none]
      simpa using List.rdropWhile_last_not isSpace _ none

theorem within_append {bytes : Nat} {front : DocText} (fits : utf8Length front ≤ bytes) (back : DocText) :
    within bytes (front ++ back) = front ++ within (bytes - utf8Length front) back := by
  induction front generalizing bytes with
  | nil => simp [utf8Length]
  | cons letter rest ih =>
      simp only [utf8Length, List.map_cons, List.sum_cons] at fits
      rw [List.cons_append, within, if_pos (by omega), ih (by simp only [utf8Length]; omega), List.cons_append]
      simp only [utf8Length, List.map_cons, List.sum_cons, Nat.sub_sub]

def Opens (front text : DocText) : Prop := text = front ∨ ∃ more, text = front ++ '\n' :: more

theorem Opens.sublist {front : DocText} (opens : Opens front text) :
    (front.splitOn '\n').Sublist (text.splitOn '\n') := by
  rcases opens with rfl | ⟨more, rfl⟩
  · exact .refl _
  · rw [List.splitOn_append_cons_self]
    exact List.sublist_append_left ..

theorem opens_rstrip {front back : DocText} (kept : front.getLast?.all (fun letter => !isSpace letter) = true ∨
    ∃ letter ∈ back, isSpace letter = false) : Opens front (rstrip (front ++ '\n' :: back)) := by
  by_cases dark : ∃ letter ∈ '\n' :: back, isSpace letter = false
  · right
    rw [rstrip_append_dark dark]
    have inside : ∃ letter ∈ back, isSpace letter = false := by
      obtain ⟨letter, member, ink⟩ := dark
      rcases List.mem_cons.mp member with rfl | later
      · exact absurd ink (by decide)
      · exact ⟨letter, later, ink⟩
    exact ⟨rstrip back, congrArg (front ++ ·) (rstrip_append_dark inside ['\n'])⟩
  · left
    have blank : ∀ letter ∈ '\n' :: back, isSpace letter = true := by
      intro letter member
      by_contra ink
      exact dark ⟨letter, member, by simpa using ink⟩
    rw [rstrip_append_blank blank]
    refine rstrip_of_last (kept.resolve_right ?_)
    rintro ⟨letter, member, ink⟩
    exact dark ⟨letter, List.mem_cons_of_mem _ member, ink⟩

theorem opens_cut {front summary : DocText} {bytes : Nat} (room : utf8Length front + 2 ≤ bytes)
    (trimmed : Trimmed summary) (some : summary ≠ [])
    (kept : front.getLast?.all (fun letter => !isSpace letter) = true ∨
      utf8Length (front ++ ['\n', '\n'] ++ summary) ≤ bytes ∨
      utf8Length (front ++ ['\n', '\n'] ++ summary.takeWhile (· ≠ '\n') ++ ['\n']) ≤ bytes) :
    Opens front (cutText bytes (front ++ ['\n', '\n'] ++ summary)) := by
  unfold cutText
  split
  · exact .inr ⟨'\n' :: summary, by simp⟩
  · rename_i long
    have breaks : utf8Length ['\n', '\n'] = 2 := rfl
    have fits : utf8Length (front ++ ['\n', '\n']) ≤ bytes := by
      rw [utf8Length_append, breaks]
      exact room
    rw [within_append fits]
    generalize shown : within (bytes - utf8Length (front ++ ['\n', '\n'])) summary = read
    by_cases inside : '\n' ∈ read
    · -- The cut is within the summary, behind its first character.
      have cut : snapBack (front ++ ['\n', '\n'] ++ read) = front ++ '\n' :: ('\n' :: beforeLast '\n' read) := by
        unfold snapBack
        rw [beforeLast_append inside, if_pos (by simp)]
        simp
      rw [cut]
      refine opens_rstrip (.inr ?_)
      cases summary with
      | nil => exact absurd rfl some
      | cons first more =>
          have dark : isSpace first = false := by simpa using trimmed.first
          rw [within] at shown
          split at shown
          · subst shown
            have later : '\n' ∈ within (bytes - utf8Length (front ++ ['\n', '\n']) - first.utf8Size) more := by
              rcases List.mem_cons.mp inside with same | later
              · rw [← same] at dark
                exact absurd dark (by decide)
              · exact later
            refine ⟨first, List.mem_cons_of_mem _ ?_, dark⟩
            rw [← List.singleton_append, beforeLast_append later]
            exact List.mem_cons_self
          · rw [← shown] at inside
            simp at inside
    · have cut : snapBack (front ++ ['\n', '\n'] ++ read) = front ++ ['\n'] := by
        have whole : front ++ ['\n', '\n'] ++ read = (front ++ ['\n']) ++ '\n' :: read := by simp
        unfold snapBack
        rw [whole, beforeLast_self inside, if_pos (by simp)]
      rw [cut]
      refine opens_rstrip (.inl ?_)
      rcases kept with dark | fit | line
      · exact dark
      · exact absurd fit long
      · exfalso
        rw [utf8Length_append, utf8Length_append] at line
        by_cases broken : '\n' ∈ summary
        · obtain ⟨first, rest, rfl, plain⟩ := List.eq_append_cons_of_mem broken
          have other : ∀ letter ∈ first, decide (letter ≠ '\n') = true := fun letter member =>
            decide_eq_true fun same => plain (same ▸ member)
          rw [List.takeWhile_append_of_pos other, List.takeWhile_cons_of_neg (by simp), List.append_nil] at line
          have parts : first ++ '\n' :: rest = (first ++ ['\n']) ++ rest := by simp
          rw [parts, within_append (by rw [utf8Length_append]; omega)] at shown
          exact inside (shown ▸ by simp)
        · have all : summary.takeWhile (· ≠ '\n') = summary :=
            List.takeWhile_eq_self_iff.mpr fun letter member => by
              simpa using fun same : letter = '\n' => broken (same ▸ member)
          rw [all] at line
          rw [utf8Length_append] at long
          omega

theorem summarize_trimmed {reduce : Bool} {index targetTokens : Nat} {content summary : DocText}
    (answered : summarizeChunk judge reduce index content targetTokens = some summary) : Trimmed summary := by
  unfold summarizeChunk at answered
  dsimp only at answered
  split at answered
  · exact nomatch answered
  · obtain rfl := Option.some.inj answered
    exact trimmed_strip _
  · split at answered
    · exact nomatch answered
    · split at answered
      · obtain rfl := Option.some.inj answered
        exact trimmed_strip _
      · exact nomatch answered

theorem joinBlocks_ne_nil (some : blocks ≠ []) (each : ∀ block ∈ blocks, block ≠ []) : joinBlocks blocks ≠ [] := by
  obtain ⟨first, rest, rfl⟩ := List.exists_cons_of_ne_nil some
  have ink := each first List.mem_cons_self
  cases rest with
  | nil => simpa [joinBlocks] using ink
  | cons next more => simp [joinBlocks, List.intercalate_cons_cons, ink]

theorem joinBlocks_trimmed (trimmed : ∀ block ∈ blocks, Trimmed block) (some : ∀ block ∈ blocks, block ≠ []) :
    Trimmed (joinBlocks blocks) := by
  induction blocks with
  | nil => exact ⟨rfl, rfl⟩
  | cons block rest ih =>
      obtain ⟨here, later⟩ := List.forall_mem_cons.mp trimmed
      obtain ⟨ink, inks⟩ := List.forall_mem_cons.mp some
      cases rest with
      | nil => simpa [joinBlocks] using here
      | cons next more =>
          have tail : joinBlocks (next :: more) ≠ [] := joinBlocks_ne_nil (by simp) inks
          have whole : joinBlocks (block :: next :: more) = block ++ (['\n', '\n'] ++ joinBlocks (next :: more)) := by
            simp [joinBlocks, List.intercalate_cons_cons]
          obtain ⟨first, last⟩ := ih later inks
          constructor
          · rw [whole, List.head?_append_of_ne_nil _ ink]
            exact here.first
          · rw [whole, List.getLast?_append_of_ne_nil _ (by simp), List.getLast?_append_of_ne_nil _ tail]
            exact last

theorem mapReduce_trimmed {chunks : List DocText} {narrativeBudget : Nat} {summary : DocText}
    (answered : mapReduceNarrative judge chunks narrativeBudget = some summary) : Trimmed summary := by
  unfold mapReduceNarrative at answered
  split at answered
  · contradiction
  · exact summarize_trimmed answered
  · obtain ⟨results, mapped, reduced⟩ := Option.bind_eq_some_iff.mp answered
    have each : ∀ block ∈ results.filter (· ≠ []), Trimmed block := by
      intro block member
      obtain ⟨chunk, _, summarized⟩ := Readings.mem_results mapped block (List.mem_of_mem_filter member)
      exact summarize_trimmed summarized
    dsimp only at reduced
    split at reduced
    · obtain rfl := Option.some.inj reduced
      exact joinBlocks_trimmed each fun block member => by simpa using (List.mem_filter.mp member).2
    · exact summarize_trimmed reduced

def normativeText (texts : Texts) (cleaned : DocText) : DocText :=
  joinBlocks ((splitBlocks cleaned).filter (isNormativeBlock texts))

def narrativeBlocks (texts : Texts) (cleaned : DocText) : List DocText :=
  (splitBlocks cleaned).filter (!isNormativeBlock texts ·)

def narrativeSummary (texts : Texts) (judge : Judge) (cleaned : DocText) (budget : Nat) : Option DocText :=
  mapReduceNarrative judge (chunkByTokens (joinBlocks (narrativeBlocks texts cleaned)))
    (budget - (estimate (normativeText texts cleaned) + rung2JoinSlackTokens))

structure SparesNormative (texts : Texts) (judge : Judge) (cleaned : DocText) (budget : Nat) : Prop where
  narrative : NoNormativeLines texts (narrativeBlocks texts cleaned)
  first : (normativeText texts cleaned).head?.all (fun letter => !isSpace letter) = true
  last : (normativeText texts cleaned).getLast?.all (fun letter => !isSpace letter) = true ∨
    ∀ summary, narrativeSummary texts judge cleaned budget = .some summary →
      utf8Length (normativeText texts cleaned ++ ['\n', '\n'] ++ summary) ≤ 4 * budget ∨
        utf8Length (normativeText texts cleaned ++ ['\n', '\n'] ++ summary.takeWhile (· ≠ '\n') ++ ['\n']) ≤ 4 * budget

theorem rung2_some {cleaned condensed : DocText}
    (condenses : rung2Abstractive texts judge cleaned budget = .some condensed) :
    ∃ summary, narrativeSummary texts judge cleaned budget = .some summary ∧ DocText.strip summary ≠ [] ∧
      estimate (normativeText texts cleaned) + rung2JoinSlackTokens + rung2MinNarrativeBudget ≤ budget ∧
      condensed = truncateToTokens (if (splitBlocks cleaned).filter (isNormativeBlock texts) = [] then summary
        else DocText.strip (normativeText texts cleaned ++ ['\n', '\n'] ++ summary)) budget := by
  unfold rung2Abstractive at condenses
  dsimp only at condenses
  split at condenses
  · contradiction
  · rename_i possible
    split at condenses
    · contradiction
    · rename_i summary answered
      split at condenses
      · contradiction
      · rename_i some
        simp only [not_or, not_lt] at possible
        exact ⟨summary, answered, some, possible.2.1, (Option.some.inj condenses).symm⟩

theorem normative_lines (none : NoNormativeLines texts (blocks.filter (!isNormativeBlock texts ·))) :
    ((linesOf blocks).filter (isNormativeLine texts)).Sublist (linesOf (blocks.filter (isNormativeBlock texts))) := by
  induction blocks with
  | nil => exact .slnil
  | cons block rest ih =>
      rw [linesOf_cons, List.filter_append]
      cases normative : isNormativeBlock texts block with
      | true =>
          rw [List.filter_cons_of_neg (by simp [normative])] at none
          rw [List.filter_cons_of_pos normative, linesOf_cons]
          exact List.filter_sublist.append (ih none)
      | false =>
          rw [List.filter_cons_of_pos (by simp [normative])] at none
          rw [List.filter_cons_of_neg (by simp [normative])]
          have here : (block.splitOn '\n').filter (isNormativeLine texts) = [] := by
            refine List.filter_eq_nil_iff.mpr fun line member => ?_
            simp [none line (List.mem_append_left _ member)]
          rw [here, List.nil_append]
          exact ih fun line member => none line (List.mem_append_right _ member)

theorem rung2_lines (standard : texts.Standard) {cleaned condensed : DocText}
    (spares : SparesNormative texts judge cleaned budget)
    (condenses : rung2Abstractive texts judge cleaned budget = .some condensed) :
    (normativeLines texts cleaned).Sublist (condensed.splitOn '\n') := by
  have dark : ∀ line, isNormativeLine texts line = true → DocText.strip line ≠ [] := fun _ => strip_ne_nil standard
  obtain ⟨summary, answered, some, room, rfl⟩ := rung2_some condenses
  have blocks : (normativeLines texts cleaned).Sublist
      (linesOf ((splitBlocks cleaned).filter (isNormativeBlock texts))) :=
    (normative_filter (splitBlocks_lines dark cleaned)).trans (normative_lines spares.narrative)
  refine blocks.trans ?_
  split
  · rename_i none
    rw [none]
    exact List.nil_sublist _
  · rename_i normative
    have ink : normativeText texts cleaned ≠ [] :=
      joinBlocks_ne_nil normative fun block member => splitBlocks_ne_nil (List.mem_of_mem_filter member)
    have short : summary ≠ [] := by
      rintro rfl
      exact some rfl
    have trimmed := mapReduce_trimmed answered
    have whole : Trimmed (normativeText texts cleaned ++ ['\n', '\n'] ++ summary) := by
      constructor
      · rw [List.append_assoc, List.head?_append_of_ne_nil _ ink]
        exact spares.first
      · rw [List.getLast?_append_of_ne_nil _ short]
        exact trimmed.last
    have bytes : utf8Length (normativeText texts cleaned) ≤ 4 * estimate (normativeText texts cleaned) :=
      (estimate_le_iff (estimate_pos ink)).mp (le_refl _)
    have slack : rung2JoinSlackTokens = 64 := rfl
    have opens : Opens (normativeText texts cleaned)
        (cutText (4 * budget) (normativeText texts cleaned ++ ['\n', '\n'] ++ summary)) :=
      opens_cut (by omega) trimmed short (spares.last.imp_right fun fits => fits summary answered)
    rw [strip_of_trimmed whole, truncateToTokens_eq (by omega)]
    exact (linesOf_joinBlocks _).trans opens.sublist

structure CompressionSound (texts : Texts) (judge : Judge) (abstractive : Bool) (raw : DocText) (budget : Nat) :
    Prop where
  bounded : estimate (compress texts judge abstractive raw budget).1 ≤ budget
  same : estimate raw ≤ budget → (compress texts judge abstractive raw budget).1 = raw
  lines : (compress texts judge abstractive raw budget).2 ≠ .three ∨
      classifyCompressionRung texts raw (compress texts judge abstractive raw budget).1 budget ≠ .three →
    (normativeLines texts raw).Sublist ((compress texts judge abstractive raw budget).1.splitOn '\n')
  ids : (compress texts judge abstractive raw budget).2 ≠ .three ∨
      classifyCompressionRung texts raw (compress texts judge abstractive raw budget).1 budget ≠ .three →
    (findAll (summaryRequirementId texts) raw).Sublist
      (findAll (summaryRequirementId texts) (compress texts judge abstractive raw budget).1)

def Spares (texts : Texts) (judge : Judge) (abstractive : Bool) (raw : DocText) (budget : Nat) : Prop :=
  estimate raw ≤ budget ∨ NoNormativeLines texts (repeatedBlocks texts raw) ∧
    (estimate (rung1Cleanup texts raw) ≤ budget ∨ abstractive = false ∨
      SparesNormative texts judge (rung1Cleanup texts raw) budget)

theorem compress_cases (texts : Texts) (judge : Judge) (abstractive : Bool) (raw : DocText) (budget : Nat) :
    (estimate raw ≤ budget ∧ compress texts judge abstractive raw budget = (raw, .zero)) ∨
    (¬estimate raw ≤ budget ∧ estimate (rung1Cleanup texts raw) ≤ budget ∧
      compress texts judge abstractive raw budget = (rung1Cleanup texts raw, .one)) ∨
    (¬estimate raw ≤ budget ∧ ¬estimate (rung1Cleanup texts raw) ≤ budget ∧
      compress texts judge abstractive raw budget = (rung3Clamp texts (rung1Cleanup texts raw) budget, .three)) ∨
    (¬estimate raw ≤ budget ∧ ¬estimate (rung1Cleanup texts raw) ≤ budget ∧ abstractive = true ∧
      ∃ condensed, rung2Abstractive texts judge (rung1Cleanup texts raw) budget = .some condensed ∧
        compress texts judge abstractive raw budget = (condensed, .two)) := by
  unfold compress compressProblemStatement
  by_cases fits : estimate raw ≤ budget
  · left
    rw [if_pos fits]
    exact ⟨fits, rfl⟩
  · by_cases clean : estimate (rung1Cleanup texts raw) ≤ budget
    · right; left
      rw [if_neg fits, if_pos clean]
      exact ⟨fits, clean, rfl⟩
    · right; right
      rw [if_neg fits, if_neg clean]
      cases abstractive with
      | false => exact .inl ⟨fits, clean, rfl⟩
      | true =>
          cases condenses : rung2Abstractive texts judge (rung1Cleanup texts raw) budget with
          | none => exact .inl ⟨fits, clean, rfl⟩
          | some condensed => exact .inr ⟨fits, clean, rfl, condensed, rfl, rfl⟩

theorem estimate_compress (judge : Judge) (abstractive : Bool) (raw : DocText) (positive : 1 ≤ budget) :
    estimate (compress texts judge abstractive raw budget).1 ≤ budget := by
  rcases compress_cases texts judge abstractive raw budget with
    ⟨fits, same⟩ | ⟨_, fits, same⟩ | ⟨_, _, same⟩ | ⟨_, _, _, condensed, condenses, same⟩
  · rw [same]
    exact fits
  · rw [same]
    exact fits
  · rw [same]
    exact estimate_truncate positive _
  · obtain ⟨summary, _, _, _, rfl⟩ := rung2_some condenses
    rw [same]
    exact estimate_truncate positive _

theorem classify_clamp (positive : 1 ≤ budget) (long : ¬estimate raw ≤ budget)
    (unclean : ¬estimate (rung1Cleanup texts raw) ≤ budget) :
    classifyCompressionRung texts raw (rung3Clamp texts (rung1Cleanup texts raw) budget) budget = .three := by
  have short : estimate (rung3Clamp texts (rung1Cleanup texts raw) budget) ≤ budget := estimate_truncate positive _
  have changed : rung3Clamp texts (rung1Cleanup texts raw) budget ≠ raw := fun same => long (same ▸ short)
  have clamped : rung3Clamp texts (rung1Cleanup texts raw) budget ≠ rung1Cleanup texts raw := by
    intro same
    rw [same] at short
    exact unclean short
  rw [classifyCompressionRung, if_neg changed, if_neg clamped, if_pos rfl]

theorem compress_lines (standard : texts.Standard) {abstractive : Bool} (positive : 1 ≤ budget)
    (spares : Spares texts judge abstractive raw budget)
    (reported : (compress texts judge abstractive raw budget).2 ≠ .three ∨
      classifyCompressionRung texts raw (compress texts judge abstractive raw budget).1 budget ≠ .three) :
    (normativeLines texts raw).Sublist ((compress texts judge abstractive raw budget).1.splitOn '\n') := by
  rcases compress_cases texts judge abstractive raw budget with
    ⟨_, same⟩ | ⟨long, _, same⟩ | ⟨long, unclean, same⟩ | ⟨long, unclean, on, condensed, condenses, same⟩
  · rw [same]
    exact List.filter_sublist
  · obtain ⟨none, _⟩ := spares.resolve_left long
    rw [same]
    exact cleanup_lines standard none
  · rw [same] at reported
    rcases reported with reported | reported
    · exact absurd rfl reported
    · exact absurd (classify_clamp positive long unclean) reported
  · obtain ⟨none, later⟩ := spares.resolve_left long
    have kept := cleanup_lines standard none
    have condensedLines := rung2_lines standard ((later.resolve_left unclean).resolve_left (by simp [on])) condenses
    rw [same]
    exact (normative_filter kept).trans condensedLines

def shortJudge : Judge := { answer := fun _ => .answered (.some "short".toList) false, timedOut := false }

def musicStatement (requirement : String) : DocText :=
  requirement.toList ++ '\n' :: '\n' :: List.replicate 290 (Char.ofNat 0x1D11E)

end Compressor

end Thought2Build.Pipeline
