import Thought2Build.Library.PatternLines
import Thought2Build.Pipeline.Dedupe
import Thought2Build.Pipeline.HarnessIndex
import Thought2Build.Pipeline.SectionBodiesCore

/-! The body of a section is made of whole lines: the ones between its heading and the next line that ends it. -/

namespace Thought2Build.Pipeline

open Patterns Pattern

variable {pattern : Pattern} {finish : Cursor} {lines : List DocText} {level : Nat}

def headingsIn (pattern : Pattern) : List DocText → List (Nat × List DocText)
  | [] => []
  | line :: rest =>
      ((matchStart pattern line).map fun finish => (levelOf finish, rest)).toList ++ headingsIn pattern rest

def endsSection (level : Nat) (line : DocText) : Bool := (matchStart (terminator level) line).isSome

def sectionStart (artifactMd : DocText) (heading : String) : Option (Nat × List DocText) :=
  ((headingsIn (titledHeading (titleOf heading)) (artifactMd.splitOn '\n')).argmin (·.1)).or
    ((headingsIn (parenthesisedHeading (titleOf heading)) (artifactMd.splitOn '\n')).argmin (·.1))

def sectionLines (artifactMd : DocText) (heading : String) : List DocText :=
  match sectionStart artifactMd heading with
  | none => []
  | .some (level, rest) => rest.takeWhile fun line => !endsSection level line

namespace DocText

theorem strip_space_cons {letter : Char} (space : isSpace letter = true) (text : DocText) :
    strip (letter :: text) = strip text := by
  rw [strip, strip, List.dropWhile_cons_of_pos space]

theorem strip_append_space {letter : Char} (space : isSpace letter = true) (text : DocText) :
    strip (text ++ [letter]) = strip text := by
  rw [strip, strip, List.dropWhile_append]
  split
  · rename_i blank
    rw [List.isEmpty_iff] at blank
    rw [blank, List.dropWhile_cons_of_pos space]
    rfl
  · rw [List.rdropWhile_concat_pos _ _ _ space]

end DocText

theorem findTexts_strip (cut : ∀ letter, isSpace letter = true → pattern.cutBy letter = true)
    (empty : findTexts pattern [] = []) (text : DocText) : findTexts pattern text.strip = findTexts pattern text := by
  have front : ∀ text : DocText, findTexts pattern (text.dropWhile isSpace) = findTexts pattern text := by
    intro text
    induction text with
    | nil => rfl
    | cons letter text ih =>
        by_cases space : isSpace letter = true
        · have here := findTexts_cut (cut letter space) [] text
          rw [empty, List.nil_append, List.nil_append] at here
          rw [List.dropWhile_cons_of_pos space, ih, here]
        · rw [List.dropWhile_cons_of_neg space]
  have back : ∀ text : DocText, findTexts pattern (text.rdropWhile isSpace) = findTexts pattern text := by
    intro text
    induction text using List.reverseRecOn with
    | nil => rfl
    | append_singleton text letter ih =>
        by_cases space : isSpace letter = true
        · have here := findTexts_cut (cut letter space) text []
          rw [empty, List.append_nil] at here
          rw [List.rdropWhile_concat_pos _ _ _ space, ih, here]
        · rw [List.rdropWhile_concat_neg _ _ _ space]
  rw [DocText.strip, back, front]

def WholeLine (pattern : Pattern) : Prop :=
  ∀ line : DocText, '\n' ∉ line → ∀ finish, matchStart pattern line = .some finish → finish.ahead = []

theorem WholeLine.of_lineEnd {first : Pattern} (whole : ∀ cursor, ∀ finish ∈ ends first cursor,
    finish.ahead.head?.all (· = '\n') = true) : WholeLine first := by
  intro line plain finish found
  have member := List.mem_of_head? found
  obtain ⟨read, split, _⟩ := ends_reads member
  have edge := whole _ _ member
  cases ahead : finish.ahead with
  | nil => rfl
  | cons letter rest =>
      rw [ahead] at edge split
      obtain rfl : letter = '\n' := by simpa using edge
      have inside : '\n' ∈ line := by
        change line = _ at split
        simp [split]
      exact absurd inside plain

theorem headingsIn_suffix {place : Nat × List DocText} (member : place ∈ headingsIn pattern lines) :
    place.2 <:+ lines := by
  induction lines with
  | nil => exact absurd member List.not_mem_nil
  | cons line rest ih =>
      rcases List.mem_append.mp member with here | later
      · obtain ⟨finish, _, rfl⟩ :
            ∃ finish, matchStart pattern line = .some finish ∧ (levelOf finish, rest) = place := by
          simpa using here
        exact List.suffix_cons _ _
      · exact (ih later).trans (List.suffix_cons _ _)

theorem sectionStart_suffix {artifactMd : DocText} {heading : String} {place : Nat × List DocText}
    (start : sectionStart artifactMd heading = .some place) : place.2 <:+ artifactMd.splitOn '\n' := by
  rcases Option.or_eq_some_iff.mp start with titled | ⟨_, parenthesised⟩
  · exact headingsIn_suffix (List.argmin_mem titled)
  · exact headingsIn_suffix (List.argmin_mem parenthesised)

theorem lineFinds_headings {inner : Pattern} (whole : WholeLine (.andThen .lineStart inner))
    (plain : ∀ line ∈ lines, '\n' ∉ line) (before : List Char) :
    (lineFinds (.andThen .lineStart inner) before lines).map (fun found => (levelOf found.2, found.2.ahead)) =
      (headingsIn (.andThen .lineStart inner) lines).map fun heading => (heading.1, linesBehind heading.2) := by
  induction lines generalizing before with
  | nil => rfl
  | cons line rest ih =>
      obtain ⟨here, later⟩ := List.forall_mem_cons.mp plain
      rw [lineFinds, headingsIn, List.map_append, List.map_append, ih later]
      refine congrArg (· ++ _) ?_
      rw [← matchStart]
      cases found : matchStart (.andThen .lineStart inner) line with
      | none => rfl
      | some finish =>
          have ended := whole line here finish found
          simp [withinBoth, Cursor.within, levelOf, ended]

theorem argmin_map {α β : Type*} (key : β → Nat) (image : α → β) (items : List α) :
    (items.map image).argmin key = (items.argmin fun item => key (image item)).map image := by
  induction items using List.reverseRecOn with
  | nil => rfl
  | append_singleton items item ih =>
      rw [List.map_append, List.map_singleton, List.argmin_concat, List.argmin_concat, ih]
      cases items.argmin fun item => key (image item) with
      | none => rfl
      | some best =>
          simp only [Option.map_some]
          split <;> rfl

theorem shallowest_lines {inner : Pattern} (cut : (Pattern.andThen .lineStart inner).cutBy '\n' = true)
    (whole : WholeLine (.andThen .lineStart inner)) (artifactMd : DocText) :
    (shallowest (.andThen .lineStart inner) artifactMd).map (fun found => (levelOf found.2, found.2.ahead)) =
      ((headingsIn (.andThen .lineStart inner) (artifactMd.splitOn '\n')).argmin (·.1)).map fun heading =>
        (heading.1, linesBehind heading.2) := by
  have plain : ∀ line ∈ artifactMd.splitOn '\n', '\n' ∉ line := fun line => newline_not_mem
  have same := lineFinds_headings whole plain []
  have first := argmin_map (·.1) (fun found : Cursor × Cursor => (levelOf found.2, found.2.ahead))
    (lineFinds (.andThen .lineStart inner) [] (artifactMd.splitOn '\n'))
  have second := argmin_map (·.1) (fun heading : Nat × List DocText => (heading.1, linesBehind heading.2))
    (headingsIn (.andThen .lineStart inner) (artifactMd.splitOn '\n'))
  rw [shallowest, findIter_lineStart cut]
  rw [same] at first
  exact first.symm.trans second

def brokenLines (lines : List DocText) : DocText := lines.flatMap fun line => line ++ ['\n']

theorem linesBehind_broken (lines : List DocText) : linesBehind lines ++ ['\n'] = '\n' :: brokenLines lines := by
  induction lines with
  | nil => rfl
  | cons line rest ih =>
      rw [linesBehind, List.flatMap_cons, ← linesBehind, List.append_assoc, ih]
      simp [brokenLines]

theorem lineFinds_head {inner : Pattern} (before : List Char) :
    ((lineFinds (.andThen .lineStart inner) before lines).head?.map fun found => found.1.before) =
      if lines.all fun line => (matchStart (.andThen .lineStart inner) line).isNone then none
      else .some ((brokenLines (lines.takeWhile fun line =>
        (matchStart (.andThen .lineStart inner) line).isNone)).reverse ++ before) := by
  induction lines generalizing before with
  | nil => rfl
  | cons line rest ih =>
      have later := ih ('\n' :: (line.reverse ++ before))
      rw [lineFinds, ← matchStart, List.all_cons, List.takeWhile_cons]
      cases matchStart (.andThen .lineStart inner) line with
      | none =>
          simp only [Option.map_none, Option.toList_none, List.nil_append, Option.isNone_none, Bool.true_and, if_true,
            later]
          split
          · rfl
          · simp [brokenLines]
      | some finish => rfl

theorem sequence_fits {left right : Option Char} {patterns : List Pattern}
    (each : ∀ pattern ∈ patterns, pattern.fits left right = true) : (Pattern.sequence patterns).fits left right = true := by
  induction patterns with
  | nil => rfl
  | cons first rest ih =>
      obtain ⟨here, later⟩ := List.forall_mem_cons.mp each
      exact Bool.and_eq_true_iff.mpr ⟨here, ih later⟩

theorem upTo_fits {left right : Option Char} {meets : Char → Bool}
    (stops : right.all (fun letter => !meets letter) = true) (count : Nat) : (upTo meets count).fits left right = true := by
  induction count with
  | zero => rfl
  | succ count ih => exact Bool.and_eq_true_iff.mpr ⟨Bool.and_eq_true_iff.mpr ⟨stops, ih⟩, rfl⟩

theorem numberSigns_fits {left right : Option Char} (line : right.all (· = '\n') = true) (most : Nat) :
    (numberSigns most).fits left right = true := by
  have stops : right.all (fun letter => !decide (letter = '#')) = true := by
    cases right with
    | none => rfl
    | some letter =>
        obtain rfl : letter = '\n' := by simpa using line
        rfl
  refine sequence_fits (List.forall_mem_cons.mpr ⟨sequence_fits fun pattern member => ?_, ?_⟩)
  · obtain ⟨letter, sign, rfl⟩ := List.mem_map.mp member
    obtain rfl : letter = '#' := by simpa using sign
    exact stops
  · simpa using upTo_fits stops _

theorem terminator_cut (level : Nat) : (terminator level).cutBy '\n' = true := by
  have signs := fun left right line => @numberSigns_fits left right line level
  simp only [Pattern.cutBy, Bool.and_eq_true]
  constructor <;> refine sequence_fits ?_ <;> simp [signs, Pattern.fits, Pattern.some, isBlank, isSpace]

theorem letters_fits {left right : Option Char} {title : DocText} (plain : '\n' ∉ title)
    (line : right.all (· = '\n') = true) :
    (Pattern.sequence (title.map fun letter => one (· = letter))).fits left right = true := by
  refine sequence_fits fun pattern member => ?_
  obtain ⟨letter, within, rfl⟩ := List.mem_map.mp member
  cases right with
  | none => rfl
  | some next =>
      obtain rfl : next = '\n' := by simpa using line
      simpa [Pattern.fits] using fun same : '\n' = letter => plain (same ▸ within)

theorem titled_cut {title : DocText} (plain : '\n' ∉ title) : (titledHeading title).cutBy '\n' = true := by
  have signs := fun left right line => @numberSigns_fits left right line 6
  have letters := fun left right line => @letters_fits left right title plain line
  simp only [Pattern.cutBy, Bool.and_eq_true]
  constructor <;> refine sequence_fits ?_ <;> simp [signs, letters, Pattern.fits, Pattern.some, isBlank]

theorem parenthesised_cut {title : DocText} (plain : '\n' ∉ title) :
    (parenthesisedHeading title).cutBy '\n' = true := by
  have signs := fun left right line => @numberSigns_fits left right line 6
  have letters := fun left right line => @letters_fits left right title plain line
  simp only [Pattern.cutBy, Bool.and_eq_true]
  constructor <;> refine sequence_fits ?_ <;> simp [signs, letters, Pattern.fits, Pattern.some, isBlank]

theorem titled_whole (title : DocText) : WholeLine (titledHeading title) := by
  refine WholeLine.of_lineEnd fun cursor finish found => ?_
  simp only [titledHeading, Pattern.sequence, List.foldr_cons, List.foldr_nil, mem_ends_andThen, mem_ends_nothing,
    mem_ends_lineEnd] at found
  obtain ⟨_, _, _, _, _, _, _, _, _, _, _, ⟨edge, rfl⟩, rfl⟩ := found
  exact edge

theorem parenthesised_whole (title : DocText) : WholeLine (parenthesisedHeading title) := by
  refine WholeLine.of_lineEnd fun cursor finish found => ?_
  simp only [parenthesisedHeading, Pattern.sequence, List.foldr_cons, List.foldr_nil, mem_ends_andThen, mem_ends_nothing,
    mem_ends_lineEnd] at found
  obtain ⟨_, _, _, _, _, _, _, _, _, _, _, _, _, _, _, _, _, _, _, ⟨edge, rfl⟩, rfl⟩ := found
  exact edge

theorem cut_lines (plain : ∀ line ∈ lines, '\n' ∉ line) (level : Nat) :
    (match (findIter (terminator level) (linesBehind lines)).head? with
      | .some finish => DocText.strip ((linesBehind lines).take finish.1.before.length)
      | none => DocText.strip (linesBehind lines)) =
      DocText.strip (linesBehind (lines.takeWhile fun line => !endsSection level line)) := by
  have search : findIter (terminator level) (linesBehind lines) =
      lineFinds (terminator level) [] ((linesBehind lines).splitOn '\n') := findIter_lineStart (terminator_cut level) _
  have split : (linesBehind lines).splitOn '\n' = [] :: lines := splitOn_linesBehind plain [] List.not_mem_nil
  have first : lineFinds (terminator level) [] ([] :: lines) = lineFinds (terminator level) ['\n'] lines := rfl
  have head : (lineFinds (terminator level) ['\n'] lines).head?.map (fun found => found.1.before) =
      if lines.all fun line => (matchStart (terminator level) line).isNone then none
      else .some ((brokenLines (lines.takeWhile fun line =>
        (matchStart (terminator level) line).isNone)).reverse ++ ['\n']) := lineFinds_head _
  have keeps : (fun line => !endsSection level line) = fun line => (matchStart (terminator level) line).isNone := by
    funext line
    simp [endsSection]
  rw [search, split, first, keeps]
  by_cases all : lines.all fun line => (matchStart (terminator level) line).isNone
  · rw [if_pos all, Option.map_eq_none_iff] at head
    have kept : lines.takeWhile (fun line => (matchStart (terminator level) line).isNone) = lines :=
      List.takeWhile_eq_self_iff.mpr (List.all_eq_true.mp all)
    rw [head, kept]
  · rw [if_neg all] at head
    obtain ⟨found, first, before⟩ := Option.map_eq_some_iff.mp head
    have whole := @List.takeWhile_append_dropWhile _ (fun line => (matchStart (terminator level) line).isNone) lines
    obtain ⟨last, rest, dropped⟩ : ∃ last rest,
        lines.dropWhile (fun line => (matchStart (terminator level) line).isNone) = last :: rest := by
      refine List.exists_cons_of_ne_nil fun empty => all ?_
      exact List.all_eq_true.mpr (List.dropWhile_eq_nil_iff.mp empty)
    rw [dropped] at whole
    generalize lines.takeWhile _ = taken at before whole ⊢
    have text : linesBehind lines = (linesBehind taken ++ ['\n']) ++ (last ++ linesBehind rest) := by
      rw [← whole]
      simp [linesBehind]
    have length : found.1.before.length = (linesBehind taken ++ ['\n']).length := by
      rw [before, linesBehind_broken]
      simp
    rw [first]
    dsimp only
    rw [length, text, List.take_left, DocText.strip_append_space (by decide)]

theorem sectionBody_lines {heading : String} (plain : '\n' ∉ titleOf heading) (artifactMd : DocText) :
    sectionBody artifactMd heading = DocText.strip (linesBehind (sectionLines artifactMd heading)) := by
  have titled := shallowest_lines (titled_cut plain) (titled_whole (titleOf heading)) artifactMd
  have parenthesised := shallowest_lines (parenthesised_cut plain) (parenthesised_whole (titleOf heading)) artifactMd
  have same : ((shallowest (titledHeading (titleOf heading)) artifactMd).or
      (shallowest (parenthesisedHeading (titleOf heading)) artifactMd)).map
        (fun found => (levelOf found.2, found.2.ahead)) =
      (sectionStart artifactMd heading).map fun place => (place.1, linesBehind place.2) := by
    rw [sectionStart, Option.map_or, Option.map_or]
    exact congrArg₂ Option.or titled parenthesised
  rw [sectionBody, sectionLines]
  dsimp only
  cases first : (shallowest (titledHeading (titleOf heading)) artifactMd).or
      (shallowest (parenthesisedHeading (titleOf heading)) artifactMd) with
  | none =>
      rw [first] at same
      rw [Option.map_eq_none_iff.mp same.symm]
      rfl
  | some found =>
      rw [first] at same
      obtain ⟨⟨level, rest⟩, start, place⟩ := Option.map_eq_some_iff.mp same.symm
      obtain ⟨levels, ahead⟩ := Prod.mk.inj place
      have plain : ∀ line ∈ rest, '\n' ∉ line := fun line member =>
        newline_not_mem ((sectionStart_suffix start).subset member)
      have body := cut_lines plain level
      dsimp only at levels ahead
      rw [start]
      dsimp only
      rw [← levels, ← ahead]
      exact body

end Thought2Build.Pipeline
