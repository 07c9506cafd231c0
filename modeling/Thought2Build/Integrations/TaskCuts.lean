import Mathlib.Algebra.GroupWithZero.Nat
import Thought2Build.Integrations.TaskHeadings
import Thought2Build.Library.PatternLines

/-! A document that is cut in two before a line that is no task's: what the parts are parsed to, and the whole. -/

namespace Thought2Build.Integrations

open Patterns Pattern
open Pipeline (isSpace)

namespace Texts

variable {texts : Texts} {cursor middle finish : Cursor} {ahead spaces digits rest : List Char}

theorem head_andThen {first second : Pattern} (early : (ends first cursor).head? = .some middle)
    (late : (ends second middle).head? = .some finish) : (ends (andThen first second) cursor).head? = .some finish := by
  obtain ⟨others, whole⟩ := List.head?_eq_some_iff.mp early
  obtain ⟨more, behind⟩ := List.head?_eq_some_iff.mp late
  rw [ends, whole, List.flatMap_cons, behind]
  rfl

theorem head_only {pattern : Pattern} (there : middle ∈ ends pattern cursor)
    (only : ∀ other ∈ ends pattern cursor, other = middle) : (ends pattern cursor).head? = .some middle := by
  cases found : ends pattern cursor with
  | nil => simp [found] at there
  | cons first others =>
      rw [found] at only
      rw [List.head?_cons, only first List.mem_cons_self]

theorem head_lineStart (starts : cursor.startsLine = true) : (ends lineStart cursor).head? = .some cursor :=
  head_only (mem_ends_lineStart.mpr ⟨starts, rfl⟩) fun _ other => (mem_ends_lineStart.mp other).2

theorem head_literal {text : String} (whole : cursor.ahead = text.toList ++ rest) :
    (ends (literal text) cursor).head? = .some (cursor.skip text.toList rest) := by
  refine head_only (mem_ends_literal_iff.mpr ⟨rest, whole, rfl⟩) fun other found => ?_
  obtain ⟨tail, same, rfl⟩ := mem_ends_literal_iff.mp found
  rw [List.append_cancel_left (whole.symm.trans same)]

theorem stretch_last {meets : Char → Bool} {groups : List (List Char)} {read before : List Char}
    (all : ∀ letter ∈ read, meets letter = true) (stops : rest.head?.all (fun letter => !meets letter) = true) :
    (stretch meets groups before (read ++ rest)).getLast? = .some ⟨read.reverse ++ before, rest, groups⟩ := by
  induction read generalizing before with
  | nil =>
      cases rest with
      | nil => rfl
      | cons letter rest =>
          have bad : meets letter = false := by simpa using stops
          simp [stretch, bad]
  | cons letter read ih =>
      obtain ⟨good, more⟩ := List.forall_mem_cons.mp all
      have next := @ih (letter :: before) more
      rw [List.cons_append, stretch, if_pos good, List.getLast?_cons, next]
      simp

theorem head_some {meets : Char → Bool} {read : List Char} (whole : cursor.ahead = read ++ rest) (filled : read ≠ [])
    (all : ∀ letter ∈ read, meets letter = true) (stops : rest.head?.all (fun letter => !meets letter) = true) :
    (ends (.some meets) cursor).head? = .some (cursor.skip read rest) := by
  obtain ⟨letter, read, rfl⟩ := List.exists_cons_of_ne_nil filled
  obtain ⟨good, more⟩ := List.forall_mem_cons.mp all
  have one : (ends (one meets) cursor).head? = .some (cursor.skip [letter] (read ++ rest)) := by
    rw [ends, whole]
    simp [good, Cursor.skip]
  refine head_andThen one ?_
  rw [ends, List.head?_reverse, Cursor.skip_ahead, stretch_last more stops]
  simp [Cursor.skip]

theorem head_number (standard : texts.Standard) (whole : cursor.ahead = "T-".toList ++ (digits ++ ':' :: rest))
    (all : texts.AllDigits digits) : (ends (group texts.taskNumber) cursor).head? =
      .some ⟨("T-".toList ++ digits).reverse ++ cursor.before, ':' :: rest, ("T-".toList ++ digits) :: cursor.groups⟩ := by
  have inner : (ends texts.taskNumber cursor).head? =
      .some (cursor.skip ("T-".toList ++ digits) (':' :: rest)) := by
    refine head_andThen (head_literal whole) (head_andThen (head_some rfl all.1 all.2 ?_) ?_)
    · exact (congrArg (!·) standard.colon :)
    · simp [ends, Cursor.skip]
  rw [ends, List.head?_map, inner, Option.map_some, Cursor.read_skip]
  rfl

def titlePart : Pattern := sequence [group (andThen (one (· ≠ '\n')) (few (· ≠ '\n'))), many isSpace, lineEnd]

theorem mem_titlePart : finish ∈ ends titlePart cursor ↔ ∃ name tail rest, cursor.ahead = name ++ (tail ++ rest) ∧
    (name ≠ [] ∧ '\n' ∉ name) ∧ (∀ letter ∈ tail, isSpace letter = true) ∧ rest.head?.all (· = '\n') = true ∧
      finish = ⟨(name ++ tail).reverse ++ cursor.before, rest, name :: cursor.groups⟩ := by
  simp only [titlePart, Pattern.sequence, List.foldr_cons, List.foldr_nil, mem_ends_andThen, mem_title,
    mem_ends_many_iff, mem_ends_lineEnd, mem_ends_nothing]
  constructor
  · rintro ⟨_, ⟨name, _, title, named, rfl⟩, _, ⟨tail, rest, last, blanks, rfl⟩, _, ⟨stops, rfl⟩, rfl⟩
    rw [Cursor.skip_ahead] at stops
    simp only at last
    exact ⟨name, tail, rest, by rw [title, last], named, blanks, stops, by simp [Cursor.skip]⟩
  · rintro ⟨name, tail, rest, title, named, blanks, stops, rfl⟩
    exact ⟨_, ⟨name, _, title, named, rfl⟩, _, ⟨tail, rest, rfl, blanks, rfl⟩, _, ⟨stops, rfl⟩, by simp [Cursor.skip]⟩

theorem titlePart_found {ink : Char} {more : List Char} (whole : cursor.ahead = ink :: more) (line : ink ≠ '\n') :
    ends titlePart cursor ≠ [] := by
  have split : cursor.ahead =
      (ink :: more).takeWhile (· ≠ '\n') ++ ([] ++ (ink :: more).dropWhile (· ≠ '\n')) := by
    rw [List.nil_append, List.takeWhile_append_dropWhile, whole]
  refine List.ne_nil_of_mem (mem_titlePart.mpr ⟨_, [], _, split, ⟨?_, ?_⟩, by simp, ?_, rfl⟩)
  · simp [line]
  · exact fun member => by simpa using List.mem_takeWhile_imp member
  · have head := List.head?_dropWhile_not (fun letter => decide (letter ≠ '\n')) (ink :: more)
    cases behind : ((ink :: more).dropWhile (· ≠ '\n')).head? with
    | none => rfl
    | some other =>
        rw [behind] at head
        simpa using head

theorem headed (standard : texts.Standard) {gap more : List Char} {ink : Char} (starts : cursor.startsLine = true)
    (opening : texts.Opening cursor.ahead spaces digits (gap ++ ink :: more)) (white : AllSpaces gap)
    (dark : isSpace ink = false) : ∃ name tail rest,
      ink :: more = name ++ (tail ++ rest) ∧ (name ≠ [] ∧ '\n' ∉ name) ∧ (∀ letter ∈ tail, isSpace letter = true) ∧
        rest.head?.all (· = '\n') = true ∧ (ends texts.taskHeading cursor).head? = .some
          ⟨("###".toList ++ (spaces ++ ("T-".toList ++ (digits ++ ':' :: (gap ++ (name ++ tail)))))).reverse ++
            cursor.before, rest, name :: ("T-".toList ++ digits) :: cursor.groups⟩ := by
  have line : ink ≠ '\n' := by
    rintro rfl
    exact absurd dark (by decide)
  have stops : ∀ {letter : Char} {tail : List Char}, isSpace letter = false →
      (letter :: tail).head?.all (fun letter => !isSpace letter) = true := by
    intro letter tail bad
    simp [bad]
  let place : Cursor := ⟨("###".toList ++ (spaces ++ ("T-".toList ++ (digits ++ ':' :: gap)))).reverse ++ cursor.before,
    ink :: more, ("T-".toList ++ digits) :: cursor.groups⟩
  obtain ⟨finish, others, found⟩ := List.exists_cons_of_ne_nil (@titlePart_found place ink more rfl line)
  have first : (ends titlePart place).head? = .some finish := by rw [found, List.head?_cons]
  obtain ⟨name, tail, rest, whole, named, blanks, last, same⟩ := mem_titlePart.mp (List.mem_of_head? first)
  refine ⟨name, tail, rest, whole, named, blanks, last, ?_⟩
  rw [same] at first
  have colon : ∀ {before : List Char} {groups : List (List Char)} {tail : List Char},
      (ends (one (· = ':')) ⟨before, ':' :: tail, groups⟩).head? = .some ⟨':' :: before, tail, groups⟩ :=
    fun {_ _ _} => by simp [ends]
  refine head_andThen (head_lineStart starts) (head_andThen (head_literal opening.text)
    (head_andThen (head_some rfl opening.spaces.1 opening.spaces.2 (stops (by decide)))
      (head_andThen (head_number standard rfl opening.digits)
        (head_andThen colon (head_andThen (head_some rfl white.1 white.2 (stops dark)) ?_)))))
  change (ends titlePart _).head? = _
  simpa [Cursor.skip, place] using first

structure TaskCut where
  ref : List Char
  name : List Char
  start : List Char
  behind : List Char

def cutOf (found : Cursor × Cursor) : TaskCut where
  ref := found.2.groups.tail.headD []
  name := found.2.groups.headD []
  start := found.1.ahead
  behind := found.2.ahead

def scan (texts : Texts) (before ahead : List Char) : List TaskCut :=
  (search texts.taskHeading (ahead.length + 1) ⟨before, ahead, []⟩).map cutOf

variable {before read own back : List Char}

theorem scan_fuel {fuel : Nat} (enough : ahead.length < fuel) :
    (search texts.taskHeading fuel ⟨before, ahead, []⟩).map cutOf = texts.scan before ahead :=
  congrArg (List.map cutOf) (search_fuel enough (Nat.lt_succ_self _))

theorem scan_step {letter : Char} (none : ends texts.taskHeading ⟨before, letter :: rest, []⟩ = []) :
    texts.scan before (letter :: rest) = texts.scan (letter :: before) rest := by
  rw [scan, search, none]
  rfl

theorem scan_quiet (none : ∀ front back, back ≠ [] → read = front ++ back →
    ends texts.taskHeading ⟨front.reverse ++ before, back ++ rest, []⟩ = []) :
    texts.scan before (read ++ rest) = texts.scan (read.reverse ++ before) rest := by
  have same := congrArg (List.map cutOf) (@search_skip texts.taskHeading (rest.length + 1) before read rest none)
  rwa [scan_fuel (by rw [List.length_append]; omega)] at same

theorem scan_nil : texts.scan before [] = [] := by
  have none : ends texts.taskHeading ⟨before, [], []⟩ = [] := by
    by_contra found
    obtain ⟨_, _, _, _, opening, _⟩ := taskHeading_iff.mp found
    simpa using opening.text
  rw [scan, search, none]
  rfl

theorem scan_head {groups : List (List Char)} (filled : read ≠ [])
    (found : (ends texts.taskHeading ⟨before, read ++ rest, []⟩).head? = .some ⟨read.reverse ++ before, rest, groups⟩) :
    texts.scan before (read ++ rest) = cutOf (⟨before, read ++ rest, []⟩, ⟨read.reverse ++ before, rest, groups⟩) ::
      texts.scan (read.reverse ++ before) rest := by
  obtain ⟨letter, read, rfl⟩ := List.exists_cons_of_ne_nil filled
  rw [scan, search, found]
  have moved : ((letter :: read).reverse ++ before).length ≠ before.length := by
    simp only [List.length_append, List.length_reverse, List.length_cons]
    omega
  simp only [List.cons_append, if_neg moved, List.map_cons]
  exact congrArg _ (scan_fuel (by simp only [List.length_cons, List.length_append]; omega))

theorem scan_line (edge : before.head?.all (· = '\n') = true) : texts.scan before ahead = texts.scan [] ahead := by
  have fits : texts.taskHeading.fits before.head? none = true := by
    simp [taskHeading, taskNumber, Pattern.sequence, Pattern.fits, Pattern.literal, Pattern.some, edge]
  have same := @search_within_end texts.taskHeading before (ahead.length + 1) fits ⟨[], ahead, []⟩
  rw [Cursor.within, List.nil_append, List.append_nil] at same
  rw [scan, scan, same, List.map_map]
  refine List.map_congr_left fun found _ => ?_
  simp [cutOf, withinBoth, Cursor.within]

theorem heading_marks (found : ends texts.taskHeading cursor ≠ []) : ∃ rest, cursor.ahead = "###".toList ++ rest := by
  obtain ⟨_, _, _, _, opening, _⟩ := taskHeading_iff.mp found
  exact ⟨_, opening.text⟩

theorem scan_white (white : ∀ letter ∈ read, isSpace letter = true) :
    texts.scan before (read ++ rest) = texts.scan (read.reverse ++ before) rest := by
  refine scan_quiet fun front back filled same => ?_
  by_contra found
  obtain ⟨letter, back, rfl⟩ := List.exists_cons_of_ne_nil filled
  obtain ⟨rest, whole⟩ := heading_marks found
  obtain rfl : letter = '#' := (List.cons.inj whole).1
  exact absurd (white '#' (by simp [same])) (by decide)

theorem scan_blank (white : ∀ letter ∈ ahead, isSpace letter = true) : texts.scan before ahead = [] := by
  have same := @scan_white texts [] before ahead white
  rwa [List.append_nil, scan_nil] at same

def OpensSection (text : List Char) : Prop := ∃ letter rest, text = '#' :: '#' :: letter :: rest ∧ isSpace letter = true

theorem OpensSection.not_heading (section_ : OpensSection ahead) : ends texts.taskHeading ⟨before, ahead, []⟩ = [] := by
  by_contra found
  obtain ⟨letter, rest, rfl, white⟩ := section_
  obtain ⟨tail, whole⟩ := heading_marks found
  obtain rfl : letter = '#' := by
    have third : ('#' :: '#' :: letter :: rest)[2]? = ('#' :: '#' :: '#' :: tail)[2]? := congrArg (·[2]?) whole
    simpa using third
  exact absurd white (by decide)

theorem Opening.plain (standard : texts.Standard) (opening : texts.Opening ahead spaces digits rest) (plain : '#' ∉ rest) :
    '#' ∉ spaces ++ ("T-".toList ++ (digits ++ ':' :: rest)) := by
  have marks : isSpace '#' = false := by decide
  simp only [List.mem_append, List.mem_cons, not_or]
  refine ⟨fun member => ?_, by decide, fun member => ?_, by decide, plain⟩
  · rw [opening.spaces.2 '#' member] at marks
    contradiction
  · have digit := opening.digits.2 '#' member
    rw [standard.numberSign] at digit
    contradiction

theorem Opening.cut (standard : texts.Standard) (opening : texts.Opening (own ++ back) spaces digits rest)
    (edge : own.getLast? = .some '\n') (section_ : OpensSection back) :
    ∃ more, texts.Opening own spaces digits more ∧ rest = more ++ back ∧ more ≠ [] := by
  obtain ⟨letter, tail, rfl, _⟩ := section_
  obtain ⟨front, rfl⟩ := List.getLast?_eq_some_iff.mp edge
  have whole : (front ++ ['\n']) ++ '#' :: '#' :: letter :: tail =
      ("###".toList ++ (spaces ++ ("T-".toList ++ (digits ++ [':'])))) ++ rest := by
    rw [opening.text]
    simp
  have colon : "###".toList ++ (spaces ++ ("T-".toList ++ (digits ++ [':']))) =
      ("###".toList ++ (spaces ++ ("T-".toList ++ digits))) ++ [':'] := by simp
  rcases List.append_eq_append_iff.mp whole with ⟨extra, same, behind⟩ | ⟨extra, same, behind⟩
  · exfalso
    cases extra with
    | nil =>
        rw [List.append_nil, colon] at same
        exact absurd (List.append_inj' same rfl).2 (by decide)
    | cons first extra =>
        obtain rfl : first = '#' := (List.cons.inj behind).1.symm
        have opened : texts.Opening ("###".toList ++ (spaces ++ ("T-".toList ++ (digits ++ [':'])))) spaces digits [] :=
          ⟨rfl, opening.spaces, opening.digits⟩
        rcases List.append_eq_append_iff.mp same with ⟨more, _, inside⟩ | ⟨more, marks, _⟩
        · refine opened.plain standard (by simp) ?_
          rw [inside]
          simp
        · have member : '\n' ∈ "###".toList := by simp [marks]
          exact absurd member (by decide)
  · refine ⟨extra, ⟨?_, opening.spaces, opening.digits⟩, behind, ?_⟩
    · rw [same]
      simp
    · rintro rfl
      rw [List.append_nil, colon] at same
      exact absurd (List.append_inj' same rfl).2 (by decide)

theorem Opening.inside (standard : texts.Standard) (opening : texts.Opening own spaces digits rest) (plain : '#' ∉ rest)
    {front : List Char} (filled : front ≠ []) (same : own = front ++ back) :
    ends texts.taskHeading ⟨before, back, []⟩ = [] := by
  by_contra found
  obtain ⟨more, marks⟩ := heading_marks found
  have none := List.count_eq_zero.mpr (opening.plain standard plain)
  have three : "###".toList.count '#' = 3 := by decide
  obtain ⟨first, front, rfl⟩ := List.exists_cons_of_ne_nil filled
  obtain rfl : first = '#' := (List.cons.inj (same.symm.trans opening.text)).1
  have total := congrArg (List.count '#') (same.symm.trans opening.text)
  simp only at marks
  rw [List.count_append, List.count_append, marks, List.count_append, List.count_cons_self, none, three] at total
  omega

theorem line_split {text name tail rest : List Char} (whole : text = name ++ (tail ++ rest)) (line : '\n' ∉ name)
    (blanks : ∀ letter ∈ tail, isSpace letter = true) (stops : rest.head?.all (· = '\n') = true) :
    ∃ white, name ++ tail = text.takeWhile (· ≠ '\n') ++ white ∧ text.dropWhile (· ≠ '\n') = white ++ rest ∧
      ∀ letter ∈ white, isSpace letter = true := by
  have split : ∀ {front back : List Char}, '\n' ∉ front → back.head?.all (· = '\n') = true →
      (front ++ back).takeWhile (· ≠ '\n') = front ∧ (front ++ back).dropWhile (· ≠ '\n') = back := by
    intro front back plain edge
    have kept : ∀ letter ∈ front, decide (letter ≠ '\n') = true :=
      fun letter member => decide_eq_true (ne_of_mem_of_not_mem member plain)
    rw [List.takeWhile_append_of_pos kept, List.dropWhile_append_of_pos kept]
    cases back with
    | nil => simp
    | cons letter back =>
        obtain rfl : letter = '\n' := by simpa using edge
        simp
  by_cases breaks : '\n' ∈ tail
  · obtain ⟨first, second, rfl, plain⟩ := List.eq_append_cons_of_mem breaks
    obtain ⟨taken, dropped⟩ := @split (name ++ first) ('\n' :: (second ++ rest)) (by simp [line, plain]) rfl
    have same : text = (name ++ first) ++ '\n' :: (second ++ rest) := by simp [whole]
    rw [← same] at taken dropped
    refine ⟨'\n' :: second, by rw [taken]; simp, by rw [dropped]; rfl, fun letter member => ?_⟩
    exact blanks letter (List.mem_append_right _ member)
  · obtain ⟨taken, dropped⟩ := @split (name ++ tail) rest (by simp [line, breaks]) stops
    have same : text = (name ++ tail) ++ rest := by simp [whole]
    rw [← same] at taken dropped
    exact ⟨[], by rw [taken, List.append_nil], by rw [dropped]; rfl, by simp⟩

def inkCount (text : List Char) : Nat := text.countP fun letter => !isSpace letter

@[simp] theorem inkCount_append (front back : List Char) : inkCount (front ++ back) = inkCount front + inkCount back :=
  List.countP_append

theorem inkCount_white (white : ∀ letter ∈ read, isSpace letter = true) : inkCount read = 0 :=
  List.countP_eq_zero.mpr fun letter member => by simp [white letter member]

theorem inkCount_suffix {front : List Char} (suffix : front <:+ own) : inkCount front ≤ inkCount own :=
  suffix.sublist.countP_le

def nextInk (cuts : List TaskCut) : Nat := (cuts.head?.map fun cut => inkCount cut.start).getD 0

theorem nextInk_scan (before ahead : List Char) : nextInk (texts.scan before ahead) ≤ inkCount ahead := by
  rw [nextInk, scan]
  cases found : search texts.taskHeading (ahead.length + 1) ⟨before, ahead, []⟩ with
  | nil => exact Nat.zero_le _
  | cons first others =>
      have member : (first.1, first.2) ∈ search texts.taskHeading (ahead.length + 1) ⟨before, ahead, []⟩ := by
        rw [found]
        exact List.mem_cons_self
      obtain ⟨_, skipped, whole, _⟩ := mem_search member
      exact inkCount_suffix ⟨skipped, whole.symm⟩

/-- The headings of the first part beside those of the whole text: each is found in both, with the rest of the text
behind it, up to one that takes its title from the second part. -/
inductive Cuts (base : Nat) (back : List Char) (backs : List TaskCut) : List TaskCut → List TaskCut → Prop
  | none : Cuts base back backs [] backs
  | lost {wide : TaskCut} (longer : back.length < wide.start.length) (small : inkCount wide.start < base + inkCount back)
      (after : nextInk backs ≤ inkCount wide.behind) : Cuts base back backs [] (wide :: backs)
  | emptied {own wide : TaskCut} (longer : back.length < wide.start.length) (unnamed : inkCount own.name = 0) (bare : inkCount own.behind = 0)
      (named : 0 < inkCount wide.name) (start : inkCount wide.start = inkCount own.start + inkCount back)
      (after : nextInk backs ≤ inkCount wide.behind) : Cuts base back backs [own] (wide :: backs)
  | same {own wide : TaskCut} {owns wides : List TaskCut} (longer : back.length < wide.start.length) (name : inkCount wide.name = inkCount own.name)
      (start : inkCount wide.start = inkCount own.start + inkCount back)
      (behind : inkCount wide.behind = inkCount own.behind + inkCount back)
      (after : nextInk owns ≤ inkCount own.behind) (rest : Cuts base back backs owns wides) :
      Cuts base back backs (own :: owns) (wide :: wides)

theorem Titled.extend (titled : Titled rest) (back : List Char) : Titled (rest ++ back) := by
  obtain ⟨gap, letter, more, rfl, white, line⟩ := titled
  exact ⟨gap, letter, more ++ back, by simp, white, line⟩

theorem Opening.extend (opening : texts.Opening ahead spaces digits rest) (back : List Char) :
    texts.Opening (ahead ++ back) spaces digits (rest ++ back) :=
  ⟨by rw [opening.text]; simp, opening.spaces, opening.digits⟩

theorem Opening.longer (opening : texts.Opening own spaces digits rest) (back : List Char) :
    back.length < (own ++ back).length := by
  rw [opening.text]
  simp only [List.length_append, List.length_cons]
  omega

theorem scan_titled (standard : texts.Standard) {gap more : List Char} {ink : Char} (starts : before.head?.all (· = '\n') = true)
    (opening : texts.Opening ahead spaces digits (gap ++ ink :: more)) (white : AllSpaces gap)
    (dark : isSpace ink = false) : ∃ name behind,
      inkCount name = inkCount ((ink :: more).takeWhile (· ≠ '\n')) ∧
        inkCount behind = inkCount ((ink :: more).dropWhile (· ≠ '\n')) ∧
          texts.scan before ahead = ⟨"T-".toList ++ digits, name, ahead, behind⟩ ::
            texts.scan (("###".toList ++ (spaces ++ ("T-".toList ++ (digits ++ ':' :: (gap ++
              (ink :: more).takeWhile (· ≠ '\n')))))).reverse ++ before) ((ink :: more).dropWhile (· ≠ '\n')) := by
  obtain ⟨name, tail, rest, whole, ⟨_, line⟩, blanks, stops, found⟩ :=
    @headed texts ⟨before, ahead, []⟩ spaces digits standard gap more ink starts opening white dark
  obtain ⟨blank, taken, dropped, all⟩ := line_split whole line blanks stops
  refine ⟨name, rest, ?_, ?_, ?_⟩
  · have same := congrArg inkCount taken
    rwa [inkCount_append, inkCount_append, inkCount_white blanks, inkCount_white all] at same
  · rw [dropped, inkCount_append, inkCount_white all, Nat.zero_add]
  · have text : ahead = ("###".toList ++ (spaces ++ ("T-".toList ++ (digits ++ ':' :: (gap ++ (name ++ tail)))))) ++ rest := by
      rw [opening.text, whole]
      simp
    rw [dropped, scan_white all]
    have head := @scan_head texts rest before _ _ (by simp) (text ▸ found)
    rw [← text] at head
    rw [head, taken]
    simp [cutOf]

theorem scan_section (section_ : OpensSection ahead) : texts.scan before ahead =
    texts.scan ((ahead.takeWhile (· ≠ '\n')).reverse ++ before) (ahead.dropWhile (· ≠ '\n')) := by
  have quiet := @scan_quiet texts (ahead.dropWhile (· ≠ '\n')) before (ahead.takeWhile (· ≠ '\n')) ?_
  · rwa [List.takeWhile_append_dropWhile] at quiet
  · intro front back filled same
    cases front with
    | nil =>
        rw [List.nil_append] at same
        rw [← same, List.takeWhile_append_dropWhile]
        exact section_.not_heading
    | cons first front =>
        by_contra found
        obtain ⟨starts, _⟩ := taskHeading_iff.mp found
        have line : '\n' ∉ first :: front := by
          intro member
          have inside : '\n' ∈ ahead.takeWhile (· ≠ '\n') := by
            rw [same]
            exact List.mem_append_left _ member
          simpa using List.mem_takeWhile_imp inside
        obtain ⟨last, others, reversed⟩ := List.exists_cons_of_ne_nil (mt List.reverse_eq_nil_iff.mp (List.cons_ne_nil first front))
        rw [Cursor.startsLine, reversed] at starts
        obtain rfl : last = '\n' := by simpa using starts
        exact line (List.mem_reverse.mp (reversed ▸ List.mem_cons_self))

theorem cuts_titleless (standard : texts.Standard) {base : Nat} (section_ : OpensSection back)
    (starts : before.head?.all (· = '\n') = true) (edge : (own.reverse ++ before).head?.all (· = '\n') = true)
    (opening : texts.Opening own spaces digits rest) (white : AllSpaces rest) (few : inkCount own < base) :
    Cuts base back (texts.scan [] back) (texts.scan before own) (texts.scan before (own ++ back)) := by
  have backs := @scan_section texts back (own.reverse ++ before) section_
  rw [scan_line edge] at backs
  obtain ⟨letter, more, rfl, _⟩ := section_
  have longer := opening.longer ('#' :: '#' :: letter :: more)
  have mark : isSpace '#' = false := by decide
  obtain ⟨name, behind, named, after, wide⟩ :=
    scan_titled standard starts (opening.extend ('#' :: '#' :: letter :: more)) white mark
  have place : ("###".toList ++ (spaces ++ ("T-".toList ++ (digits ++ ':' :: (rest ++
      ('#' :: '#' :: letter :: more).takeWhile (· ≠ '\n')))))).reverse ++ before =
      (('#' :: '#' :: letter :: more).takeWhile (· ≠ '\n')).reverse ++ (own.reverse ++ before) := by
    rw [opening.text]
    simp
  rw [place, ← backs] at wide
  have next : nextInk (texts.scan [] ('#' :: '#' :: letter :: more)) ≤ inkCount behind := by
    rw [backs, after]
    exact nextInk_scan _ _
  have titled : 0 < inkCount name := by
    rw [named, inkCount, List.countP_pos_iff]
    exact ⟨'#', by simp, by decide⟩
  have plain : '#' ∉ rest := fun member => by simpa [mark] using white.2 '#' member
  rw [wide]
  by_cases found : ends texts.taskHeading ⟨before, own, []⟩ = []
  · have none : texts.scan before own = [] := by
      have quiet := @scan_quiet texts [] before own ?_
      · rwa [List.append_nil, scan_nil] at quiet
      · intro front back _ same
        rw [List.append_nil]
        cases front with
        | nil =>
            obtain rfl : own = back := same
            exact found
        | cons first front => exact opening.inside standard plain (List.cons_ne_nil _ _) same
    rw [none]
    refine .lost longer ?_ next
    rw [inkCount_append]
    omega
  · obtain ⟨finish, others, first⟩ := List.exists_cons_of_ne_nil found
    have head : (ends texts.taskHeading ⟨before, own, []⟩).head? = .some finish := by rw [first, List.head?_cons]
    obtain ⟨_, _, _, gap, title, tail, bare, other, _, _, _, _, rfl⟩ := mem_taskHeading.mp (List.mem_of_head? head)
    obtain ⟨rfl, rfl, rfl⟩ := opening.unique standard other
    have blank : ∀ letter ∈ title, isSpace letter = true := fun letter member => white.2 letter (by simp [member])
    have empty : ∀ letter ∈ bare, isSpace letter = true := fun letter member => white.2 letter (by simp [member])
    have text : own = ("###".toList ++ (spaces ++ ("T-".toList ++ (digits ++ ':' :: (gap ++ (title ++ tail)))))) ++ bare := by
      rw [opening.text]
      simp
    have own := @scan_head texts bare before _ _ (by simp) (text ▸ head)
    rw [← text, scan_blank empty] at own
    rw [own]
    exact .emptied longer (inkCount_white blank) (inkCount_white empty) titled (inkCount_append _ _) next

theorem cuts_titled (standard : texts.Standard) {base : Nat} {gap more : List Char} {ink : Char}
    (starts : before.head?.all (· = '\n') = true) (opening : texts.Opening own spaces digits (gap ++ ink :: more))
    (white : AllSpaces gap) (dark : isSpace ink = false) (breaks : '\n' ∈ ink :: more)
    (later : ∀ place, Cuts base back (texts.scan [] back) (texts.scan place ((ink :: more).dropWhile (· ≠ '\n')))
      (texts.scan place ((ink :: more).dropWhile (· ≠ '\n') ++ back))) :
    Cuts base back (texts.scan [] back) (texts.scan before own) (texts.scan before (own ++ back)) := by
  have wider := opening.extend back
  rw [List.append_assoc, List.cons_append] at wider
  obtain ⟨name, behind, named, after, here⟩ := scan_titled standard starts opening white dark
  obtain ⟨name', behind', named', after', wide⟩ := scan_titled standard starts wider white dark
  obtain ⟨first, second, line, plain⟩ := List.eq_append_cons_of_mem breaks
  have kept : ∀ letter ∈ first, decide (letter ≠ '\n') = true :=
    fun letter member => decide_eq_true (ne_of_mem_of_not_mem member plain)
  have taken : (ink :: (more ++ back)).takeWhile (· ≠ '\n') = (ink :: more).takeWhile (· ≠ '\n') := by
    rw [← List.cons_append, line, List.append_assoc, List.takeWhile_append_of_pos kept, List.takeWhile_append_of_pos kept]
    simp
  have dropped : (ink :: (more ++ back)).dropWhile (· ≠ '\n') = (ink :: more).dropWhile (· ≠ '\n') ++ back := by
    rw [← List.cons_append, line, List.append_assoc, List.dropWhile_append_of_pos kept, List.dropWhile_append_of_pos kept]
    simp
  rw [taken] at named' wide
  rw [dropped] at after' wide
  rw [here, wide]
  refine .same (opening.longer back) (named'.trans named.symm) (inkCount_append _ _) ?_ ?_ (later _)
  · rw [after', after, inkCount_append]
  · rw [after]
    exact nextInk_scan _ _

theorem cuts_scan (standard : texts.Standard) {base : Nat} (section_ : OpensSection back)
    (edge : (own.reverse ++ before).head?.all (· = '\n') = true) (few : inkCount own < base) :
    Cuts base back (texts.scan [] back) (texts.scan before own) (texts.scan before (own ++ back)) := by
  induction size : own.length using Nat.strongRecOn generalizing own before with
  | ind size ih =>
      subst size
      cases own with
      | nil =>
          rw [scan_nil, List.nil_append, @scan_line texts back before edge]
          exact .none
      | cons letter more =>
          have last : (letter :: more).getLast? = .some '\n' := by
            obtain ⟨final, others, reversed⟩ :=
              List.exists_cons_of_ne_nil (mt List.reverse_eq_nil_iff.mp (List.cons_ne_nil letter more))
            rw [reversed] at edge
            obtain rfl : final = '\n' := by simpa using edge
            rw [← List.head?_reverse, reversed, List.head?_cons]
          by_cases wide : ends texts.taskHeading ⟨before, letter :: more ++ back, []⟩ = []
          · have own : ends texts.taskHeading ⟨before, letter :: more, []⟩ = [] := by
              by_contra found
              obtain ⟨starts, spaces, digits, rest, opening, titled⟩ := taskHeading_iff.mp found
              exact (@taskHeading_iff texts ⟨before, letter :: more ++ back, []⟩).mpr
                ⟨starts, spaces, digits, _, opening.extend back, titled.extend back⟩ wide
            have step := @scan_step texts (more ++ back) before letter wide
            rw [scan_step own, List.cons_append, step]
            refine ih more.length (Nat.lt_succ_self _) (by simpa using edge) ?_ rfl
            exact (inkCount_suffix (List.suffix_cons letter more)).trans_lt few
          · obtain ⟨starts, spaces, digits, _, opening, titled⟩ := taskHeading_iff.mp wide
            obtain ⟨rest, here, rfl, filled⟩ := opening.cut standard last section_
            by_cases white : ∀ letter ∈ rest, isSpace letter = true
            · exact cuts_titleless standard section_ starts edge here ⟨filled, white⟩ few
            · obtain ⟨gap, ink, tail, rfl, blank, dark⟩ : ∃ gap ink tail, rest = gap ++ ink :: tail ∧
                  (∀ letter ∈ gap, isSpace letter = true) ∧ isSpace ink = false := by
                cases tail : rest.dropWhile isSpace with
                | nil => exact absurd (List.dropWhile_eq_nil_iff.mp tail) white
                | cons ink behind =>
                    have dark := List.head?_dropWhile_not isSpace rest
                    rw [tail] at dark
                    refine ⟨rest.takeWhile isSpace, ink, behind, ?_, fun letter => List.mem_takeWhile_imp,
                      by simpa using dark⟩
                    rw [← tail, List.takeWhile_append_dropWhile]
              have spaced : gap ≠ [] := by
                rintro rfl
                obtain ⟨wide, other, behind, same, ⟨filled, all⟩, _⟩ := titled
                obtain ⟨first, wide, rfl⟩ := List.exists_cons_of_ne_nil filled
                obtain rfl := (List.cons.inj same).1
                rw [all _ List.mem_cons_self] at dark
                contradiction
              have ending : (ink :: tail).getLast? = .some '\n' := by
                rw [here.text] at last
                simpa [List.getLast?_append, List.getLast?_cons] using last
              have breaks : '\n' ∈ ink :: tail := List.mem_of_getLast? ending
              refine cuts_titled standard starts here ⟨spaced, blank⟩ dark breaks fun place => ?_
              generalize behind : (ink :: tail).dropWhile (· ≠ '\n') = after
              have suffix : after <:+ ink :: tail := behind ▸ List.dropWhile_suffix _
              have remains : after ≠ [] := by
                rintro rfl
                exact absurd (List.dropWhile_eq_nil_iff.mp behind '\n' breaks) (by decide)
              have longer : (ink :: tail).length < (letter :: more).length := by
                rw [here.text]
                simp only [List.length_append, List.length_cons]
                omega
              refine ih after.length (suffix.length_le.trans_lt longer) ?_ ?_ rfl
              · obtain ⟨front, same⟩ := suffix
                rw [← same, List.getLast?_append_of_ne_nil _ remains] at ending
                rw [List.head?_append, List.head?_reverse, ending]
                rfl
              · refine (inkCount_suffix (suffix.trans ?_)).trans_lt few
                rw [here.text]
                exact ⟨"###".toList ++ (spaces ++ ("T-".toList ++ (digits ++ ':' :: gap))), by simp⟩

def weigh (base : Nat) : List TaskCut → Nat
  | [] => 0
  | cut :: rest => base + inkCount cut.name + (inkCount cut.behind - nextInk rest) + weigh base rest

theorem Cuts.weigh {base : Nat} {backs owns wides : List TaskCut} (cuts : Cuts base back backs owns wides)
    (positive : 0 < base) (next : nextInk backs < inkCount back) :
    (owns = [] ∧ wides = backs ∨ weigh base owns + weigh base backs < weigh base wides ∧
        ∃ wide ∈ wides, back.length < wide.start.length) ∧
      weigh base owns + weigh base backs + nextInk wides < inkCount back + weigh base wides + nextInk owns := by
  induction cuts with
  | none =>
      refine ⟨.inl ⟨rfl, rfl⟩, ?_⟩
      simp only [Texts.weigh, nextInk, List.head?_nil, Option.map_none, Option.getD_none] at next ⊢
      omega
  | lost longer small after =>
      simp only [Texts.weigh, nextInk, List.head?_nil, List.head?_cons, Option.map_none, Option.map_some,
        Option.getD_none, Option.getD_some] at next after ⊢
      generalize inkCount _ - _ = left
      exact ⟨.inr ⟨by omega, _, List.mem_cons_self, longer⟩, by omega⟩
  | emptied longer unnamed bare named start after =>
      simp only [Texts.weigh, nextInk, List.head?_nil, List.head?_cons, Option.map_none, Option.map_some,
        Option.getD_none, Option.getD_some, unnamed, bare, Nat.zero_sub] at next after ⊢
      generalize inkCount _ - _ = left
      exact ⟨.inr ⟨by omega, _, List.mem_cons_self, longer⟩, by omega⟩
  | @same own wide owns wides longer name start behind after rest ih =>
      obtain ⟨_, more⟩ := ih
      have ownLeft := Nat.sub_add_cancel after
      have wideLeft := Nat.sub_le_iff_le_add.mp (Nat.le_refl (inkCount wide.behind - nextInk wides))
      simp only [Texts.weigh]
      generalize inkCount own.behind - nextInk owns = ownLeft' at ownLeft ⊢
      generalize inkCount wide.behind - nextInk wides = wideLeft' at wideLeft ⊢
      simp only [nextInk, List.head?_cons, Option.map_some, Option.getD_some] at next after more ownLeft wideLeft ⊢
      exact ⟨.inr ⟨by omega, _, List.mem_cons_self, longer⟩, by omega⟩

def tasksOf (texts : Texts) (seen : List String) : List TaskCut → List ParsedTask
  | [] => []
  | cut :: rest =>
      let title := Pipeline.strip (String.ofList cut.name)
      let body := cut.behind.take (cut.behind.length - ((rest.head?.map fun next => next.start.length).getD 0))
      { ref := String.ofList cut.ref, title, rawBody := Pipeline.strip (String.ofList body)
        taskRef := texts.computeTaskRef title (seen.count (texts.normalizedTaskTitle title)) } ::
          tasksOf texts (texts.normalizedTaskTitle title :: seen) rest

def Nested : List TaskCut → Prop
  | [] => True
  | cut :: rest => (∀ next ∈ rest.head?, next.start <:+ cut.behind) ∧ Nested rest

theorem search_placed {fuel length : Nat} {found : Cursor × Cursor}
    (placed : cursor.before.length + cursor.ahead.length = length)
    (member : found ∈ search texts.taskHeading fuel cursor) :
    found.1.before.length + found.1.ahead.length = length ∧ found.1.ahead <:+ cursor.ahead := by
  obtain ⟨_, skipped, whole, behind⟩ := mem_search member
  refine ⟨?_, ⟨skipped, whole.symm⟩⟩
  rw [whole, List.length_append] at placed
  rw [behind, List.length_append, List.length_reverse]
  omega

theorem taskAt_cut {length : Nat} {following : List (Cursor × Cursor)}
    (placed : cursor.before.length + cursor.ahead.length = length) (found : finish ∈ ends texts.taskHeading cursor)
    (next : ∀ first ∈ following.head?, first.1.before.length + first.1.ahead.length = length)
    (later : ∀ seen, texts.tasksFrom length seen following = texts.tasksOf seen (following.map cutOf))
    (seen : List String) : texts.tasksFrom length seen ((cursor, finish) :: following) =
      texts.tasksOf seen (((cursor, finish) :: following).map cutOf) := by
  obtain ⟨read, whole, passed⟩ := ends_reads found
  obtain ⟨_, _, digits, _, name, _, _, _, _, _, _, _, same⟩ := mem_taskHeading.mp found
  have groups : finish.groups = name :: ("T-".toList ++ digits) :: cursor.groups := by rw [same]
  have body : ((following.head?.map fun next => next.1.before.length).getD length) - finish.before.length =
      finish.ahead.length - ((following.map cutOf).head?.map fun next => next.start.length).getD 0 := by
    rw [whole, List.length_append] at placed
    rw [passed, List.length_append, List.length_reverse]
    cases following with
    | nil =>
        simp only [List.head?_nil, Option.map_none, Option.getD_none, List.map_nil]
        omega
    | cons first others =>
        have there := next first rfl
        simp only [List.head?_cons, Option.map_some, Option.getD_some, List.map_cons, cutOf]
        omega
  simp only [tasksFrom, taskAt, groups, body, List.map_cons, tasksOf, later]
  simp only [cutOf, groups, List.headD_cons, List.tail_cons]

theorem tasksFrom_search {fuel length : Nat} (placed : cursor.before.length + cursor.ahead.length = length)
    (seen : List String) : texts.tasksFrom length seen (search texts.taskHeading fuel cursor) =
      texts.tasksOf seen ((search texts.taskHeading fuel cursor).map cutOf) := by
  induction fuel generalizing cursor seen with
  | zero => rfl
  | succ fuel ih =>
      have passes : ∀ {letter : Char} {rest : List Char}, cursor.ahead = letter :: rest →
          (letter :: cursor.before).length + rest.length = length := by
        intro letter rest ahead
        rw [ahead, List.length_cons] at placed
        rw [List.length_cons]
        omega
      rw [search]
      split
      · rfl
      · rename_i letter rest _ ahead
        exact ih (passes ahead) seen
      · rename_i finish found _
        exact taskAt_cut placed (List.mem_of_head? found) (by simp) (fun _ => rfl) seen
      · rename_i finish letter rest found ahead
        have goesOn : ∀ next : Cursor, next.before.length + next.ahead.length = length →
            texts.tasksFrom length seen ((cursor, finish) :: search texts.taskHeading fuel next) =
              texts.tasksOf seen (((cursor, finish) :: search texts.taskHeading fuel next).map cutOf) :=
          fun next further => taskAt_cut placed (List.mem_of_head? found)
            (fun first head => (search_placed further (List.mem_of_head? head)).1) (fun seen => ih further seen) seen
        split
        · exact goesOn _ (passes ahead)
        · refine goesOn _ ?_
          obtain ⟨read, whole, passed⟩ := ends_reads (List.mem_of_head? found)
          rw [whole, List.length_append] at placed
          simp only [passed, List.length_append, List.length_reverse]
          omega

theorem parseTasks_eq (texts : Texts) (content : String) :
    texts.parseTasks content = texts.tasksOf [] (texts.scan [] content.toList) :=
  tasksFrom_search (Nat.zero_add _) []

theorem nested_search {fuel : Nat} : Nested ((search texts.taskHeading fuel cursor).map cutOf) := by
  induction fuel generalizing cursor with
  | zero => trivial
  | succ fuel ih =>
      rw [search]
      split
      · trivial
      · exact ih
      · exact ⟨by simp, trivial⟩
      · rename_i finish letter rest found ahead
        have goesOn : ∀ next : Cursor, next.ahead <:+ finish.ahead →
            Nested (((cursor, finish) :: search texts.taskHeading fuel next).map cutOf) := by
          intro next behind
          refine ⟨fun first head => ?_, ih⟩
          rw [List.head?_map] at head
          obtain ⟨found, there, rfl⟩ := Option.map_eq_some_iff.mp head
          obtain ⟨_, skipped, whole, _⟩ := mem_search (List.mem_of_head? there)
          exact List.IsSuffix.trans ⟨skipped, whole.symm⟩ behind
        split
        · rename_i still
          obtain ⟨read, whole, passed⟩ := ends_reads (List.mem_of_head? found)
          obtain rfl : read = [] := by
            rw [passed, List.length_append, List.length_reverse] at still
            exact List.length_eq_zero_iff.mp (by omega)
          refine goesOn _ ?_
          rw [← show cursor.ahead = finish.ahead from whole, ahead]
          exact List.suffix_cons _ _
        · exact goesOn _ (List.suffix_refl _)

theorem inkCount_dropWhile (text : List Char) : inkCount (text.dropWhile isSpace) = inkCount text := by
  have whole := congrArg inkCount (List.takeWhile_append_dropWhile (p := isSpace) (l := text))
  rwa [inkCount_append, inkCount_white fun letter => List.mem_takeWhile_imp, Nat.zero_add] at whole

theorem inkCount_strip (text : List Char) :
    inkCount (Pipeline.strip (String.ofList text)).toList = inkCount text := by
  have reversed : ∀ text : List Char, inkCount text.reverse = inkCount text := fun _ => List.countP_reverse
  rw [Pipeline.strip, String.toList_ofList, String.toList_ofList, List.rdropWhile, reversed, inkCount_dropWhile, reversed,
    inkCount_dropWhile]

def taskWeight (base : Nat) (task : ParsedTask) : Nat := base + inkCount task.title.toList + inkCount task.rawBody.toList

theorem weigh_tasksOf {cuts : List TaskCut} (nested : Nested cuts) (base : Nat) (seen : List String) :
    ((texts.tasksOf seen cuts).map (taskWeight base)).sum = weigh base cuts := by
  induction cuts generalizing seen with
  | nil => rfl
  | cons cut rest ih =>
      obtain ⟨next, later⟩ := nested
      have body : inkCount (cut.behind.take (cut.behind.length -
          ((rest.head?.map fun next => next.start.length).getD 0))) = inkCount cut.behind - nextInk rest := by
        cases rest with
        | nil => simp [nextInk]
        | cons first others =>
            obtain ⟨front, whole⟩ := next first rfl
            simp [nextInk, ← whole]
      rw [tasksOf, List.map_cons, List.sum_cons, ih later, weigh, taskWeight, inkCount_strip, inkCount_strip, body]

theorem nested_scan (texts : Texts) (before ahead : List Char) : Nested (texts.scan before ahead) := nested_search

theorem weigh_parseTasks (base : Nat) (content : String) :
    ((texts.parseTasks content).map (taskWeight base)).sum = weigh base (texts.scan [] content.toList) := by
  rw [parseTasks_eq, weigh_tasksOf (nested_scan _ _ _)]

theorem scan_start {cut : TaskCut} (member : cut ∈ texts.scan before ahead) : cut.start <:+ ahead := by
  obtain ⟨found, inside, rfl⟩ := List.mem_map.mp member
  obtain ⟨_, skipped, whole, _⟩ := mem_search inside
  exact ⟨skipped, whole.symm⟩

theorem scan_section_start {cut : TaskCut} (section_ : OpensSection ahead) (member : cut ∈ texts.scan before ahead) :
    cut.start <:+ ahead.tail := by
  have none := @OpensSection.not_heading texts ahead before section_
  obtain ⟨letter, more, rfl, _⟩ := section_
  rw [scan_step none] at member
  exact scan_start member

theorem scan_cut (standard : texts.Standard) (section_ : OpensSection back)
    (edge : own.reverse.head?.all (· = '\n') = true) {base : Nat} (few : inkCount own < base) :
    texts.scan [] own = [] ∧ texts.scan [] (own ++ back) = texts.scan [] back ∨
      weigh base (texts.scan [] own) + weigh base (texts.scan [] back) < weigh base (texts.scan [] (own ++ back)) ∧
        ∃ cut ∈ texts.scan [] (own ++ back), back.length < cut.start.length := by
  have cuts : Cuts base back (texts.scan [] back) (texts.scan [] own) (texts.scan [] (own ++ back)) :=
    cuts_scan standard section_ (by rwa [List.append_nil]) few
  refine (cuts.weigh (Nat.zero_lt_of_lt few) ?_).1
  have none := @OpensSection.not_heading texts back [] section_
  obtain ⟨letter, more, rfl, _⟩ := section_
  rw [scan_step none]
  refine (nextInk_scan _ _).trans_lt ?_
  have more : inkCount ('#' :: '#' :: letter :: more) = inkCount ('#' :: letter :: more) + 1 :=
    List.countP_cons_of_pos (by decide)
  omega

end Texts

end Thought2Build.Integrations
