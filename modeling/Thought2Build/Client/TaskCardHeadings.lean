import Thought2Build.Client.TaskCardsCore
import Thought2Build.Integrations.TaskCuts

/-! What the front end's expressions for headings match, and the headings that both sides read alike. -/

namespace Thought2Build.Client

open Patterns Pattern
open Integrations (Texts)
open Integrations.Texts (AllSpaces mem_taskHeading taskHeading_iff headed head_andThen head_literal head_some stretch_last)
open Pipeline (isSpace strip)

variable {place finish : Cursor} {pattern : Pattern} {spaces digits gap name tail rest front back : List Char}

def opensLine (place : Cursor) : Bool := place.before.head?.all lineTerminator

structure Marked (text spaces digits gap rest : List Char) : Prop where
  text : text = "###".toList ++ (spaces ++ ("T-".toList ++ (digits ++ (gap ++ ':' :: rest))))
  spaces : spaces ≠ [] ∧ ∀ letter ∈ spaces, whiteSpace letter = true
  digits : digits ≠ [] ∧ ∀ letter ∈ digits, decimal letter = true
  gap : ∀ letter ∈ gap, whiteSpace letter = true

theorem mem_taskMark : finish ∈ ends taskMark place ↔ ∃ spaces digits gap rest,
    Marked place.ahead spaces digits gap rest ∧
      finish = place.skip ("###".toList ++ (spaces ++ ("T-".toList ++ (digits ++ (gap ++ [':']))))) rest := by
  simp only [taskMark, Pattern.sequence, List.foldr_cons, List.foldr_nil, mem_ends_andThen, mem_ends_literal_iff,
    mem_ends_some_iff, mem_ends_many_iff, mem_ends_one_iff, mem_ends_nothing, decide_eq_true_eq]
  constructor
  · rintro ⟨_, ⟨_, marks, rfl⟩, _, ⟨spaces, _, blank, filled, white, rfl⟩, _, ⟨_, number, rfl⟩, _,
      ⟨digits, _, counts, some_, decimals, rfl⟩, _, ⟨gap, _, open_, wide, rfl⟩, _, ⟨_, rest, colon, rfl, rfl⟩, rfl⟩
    simp only [Cursor.skip_ahead] at blank number counts open_ colon
    refine ⟨spaces, digits, gap, rest, ⟨?_, ⟨filled, white⟩, ⟨some_, decimals⟩, wide⟩, by simp⟩
    rw [marks, blank, number, counts, open_, colon]
  · rintro ⟨spaces, digits, gap, rest, ⟨text, ⟨filled, white⟩, ⟨some_, decimals⟩, wide⟩, rfl⟩
    exact ⟨_, ⟨_, text, rfl⟩, _, ⟨spaces, _, rfl, filled, white, rfl⟩, _, ⟨_, rfl, rfl⟩, _,
      ⟨digits, _, rfl, some_, decimals, rfl⟩, _, ⟨gap, _, rfl, wide, rfl⟩, _, ⟨':', rest, rfl, rfl, rfl⟩, by simp⟩

theorem taskMark_head (found : ends taskMark place ≠ []) : place.ahead.head? = .some '#' := by
  obtain ⟨finish, member⟩ := List.exists_mem_of_ne_nil _ found
  obtain ⟨_, _, _, _, marked, _⟩ := mem_taskMark.mp member
  rw [marked.text]
  rfl

theorem sectionMark_head (found : ends sectionMark place ≠ []) : place.ahead.head? = .some '#' := by
  obtain ⟨finish, member⟩ := List.exists_mem_of_ne_nil _ found
  simp only [sectionMark, Pattern.sequence, List.foldr_cons, mem_ends_andThen, mem_ends_literal_iff] at member
  obtain ⟨_, ⟨_, marks, _⟩, _⟩ := member
  rw [marks]
  rfl

theorem ends_nothing_behind (pattern : Pattern) (place : Cursor) :
    ends (andThen pattern nothing) place = ends pattern place := by
  rw [ends]
  exact List.flatMap_singleton' _

theorem ends_lineOpens (marks : ends pattern place ≠ [] → place.ahead.head? = .some '#') :
    ends (andThen lineOpens pattern) place = if opensLine place then ends pattern place else [] := by
  by_cases found : ends pattern place = []
  · have none : ∀ start ∈ ends lineOpens place, ends pattern start = [] := by
      intro start member
      obtain ⟨_, rfl⟩ := mem_ends_boundary.mp member
      exact found
    rw [ends, List.flatMap_eq_nil_iff.mpr none, found, ite_self]
  · have mark : place.ahead.head?.any (fun letter => !lineTerminator letter) = true := by
      rw [marks found]
      rfl
    have opens : (place.before.head?.any (fun letter => !lineTerminator letter) ≠ true) ↔ opensLine place = true := by
      unfold opensLine
      cases place.before.head? <;> simp
    rw [ends, lineOpens, ends, mark]
    by_cases starts : opensLine place = true
    · rw [if_pos (opens.mpr starts), if_pos starts, List.flatMap_cons, List.flatMap_nil, List.append_nil]
    · rw [if_neg (fun other => starts (opens.mp other)), if_neg starts, List.flatMap_nil]

theorem ends_taskOpening (place : Cursor) :
    ends taskOpening place = if opensLine place then ends taskMark place else [] := by
  have same : taskOpening = andThen lineOpens (andThen taskMark nothing) := rfl
  rw [same, ends_lineOpens, ends_nothing_behind]
  rw [ends_nothing_behind]
  exact taskMark_head

theorem ends_nextBoundary (place : Cursor) :
    ends nextBoundary place = if opensLine place then ends taskMark place ++ ends sectionMark place else [] := by
  have same : nextBoundary = andThen lineOpens (andThen (either taskMark sectionMark) nothing) := rfl
  rw [same, ends_lineOpens, ends_nothing_behind, ends]
  rw [ends_nothing_behind, ends]
  intro found
  by_cases first : ends taskMark place = []
  · exact sectionMark_head fun second => found (by rw [first, second]; rfl)
  · exact taskMark_head first

theorem nextBoundary_head (found : ends nextBoundary place ≠ []) :
    opensLine place = true ∧ place.ahead.head? = .some '#' := by
  rw [ends_nextBoundary] at found
  split at found
  · rename_i starts
    refine ⟨starts, ?_⟩
    by_cases first : ends taskMark place = []
    · exact sectionMark_head fun second => found (by rw [first, second]; rfl)
    · exact taskMark_head first
  · contradiction

theorem nextBoundary_of_opening (found : ends taskOpening place ≠ []) : ends nextBoundary place ≠ [] := by
  rw [ends_taskOpening] at found
  rw [ends_nextBoundary]
  split at found
  · rename_i starts
    rw [if_pos starts]
    exact List.append_ne_nil_of_left_ne_nil found _
  · contradiction

theorem taskLine_iff : ends taskLine place ≠ [] ↔ ends taskOpening place ≠ [] := by
  have same : taskLine = andThen lineOpens (andThen taskMark (andThen (many fun letter => !lineTerminator letter) nothing)) :=
    rfl
  have more : ∀ middle, ends (andThen (many fun letter => !lineTerminator letter) nothing) middle ≠ [] := by
    intro middle
    rw [ends_nothing_behind]
    exact List.ne_nil_of_mem (mem_ends_many_iff.mpr ⟨[], middle.ahead, rfl, by simp, rfl⟩)
  have both : ends (andThen taskMark (andThen (many fun letter => !lineTerminator letter) nothing)) place ≠ [] ↔
      ends taskMark place ≠ [] := by
    constructor
    · intro found first
      rw [ends, first] at found
      exact found rfl
    · intro found
      obtain ⟨middle, member⟩ := List.exists_mem_of_ne_nil _ found
      obtain ⟨finish, last⟩ := List.exists_mem_of_ne_nil _ (more middle)
      exact List.ne_nil_of_mem (mem_ends_andThen.mpr ⟨middle, member, last⟩)
  rw [same, ends_lineOpens fun found => taskMark_head (both.mp found), ends_taskOpening]
  by_cases starts : opensLine place = true
  · rw [if_pos starts, if_pos starts, both]
  · rw [if_neg starts, if_neg starts]

theorem last_of_starts {meets : Char → Bool} {before : List Char} (filled : front ≠ [])
    (starts : (front.reverse ++ before).head?.all meets = true) : ∃ body last, front = body ++ [last] ∧ meets last = true := by
  obtain ⟨body, last, rfl⟩ := List.eq_nil_or_concat front |>.resolve_left filled
  exact ⟨body, last, by simp, by simpa using starts⟩

theorem inside_marks {body line more before : List Char}
    (whole : front ++ back = ("###".toList ++ body) ++ (line ++ more)) (plain : '#' ∉ body)
    (flat : ∀ letter ∈ line, lineTerminator letter = false) (filled : front ≠ [])
    (starts : (front.reverse ++ before).head?.all lineTerminator = true) (mark : back.head? = .some '#') :
    front = "###".toList ++ body ∨ ("###".toList ++ body) ++ line <+: front := by
  obtain ⟨front, last, rfl, ends_⟩ := last_of_starts filled starts
  rcases List.append_eq_append_iff.mp whole with ⟨extra, early, behind⟩ | ⟨extra, late, behind⟩
  · cases extra with
    | nil => exact .inl (by rw [early, List.append_nil])
    | cons other extra =>
        exfalso
        obtain rfl : other = '#' := by simpa [behind] using mark
        rcases List.append_eq_append_iff.mp early.symm with ⟨inner, marks, _⟩ | ⟨inner, _, rest⟩
        · have member : last ∈ "###".toList := by simp [marks]
          obtain rfl : last = '#' := by simpa using member
          exact absurd ends_ (by decide)
        · exact plain (by simp [rest])
  · rcases List.append_eq_append_iff.mp behind with ⟨inner, title, _⟩ | ⟨inner, title, _⟩
    · refine .inr ⟨inner, ?_⟩
      rw [late, title, List.append_assoc]
    · cases extra using List.reverseRecOn with
      | nil => exact .inl (by rw [late, List.append_nil])
      | append_singleton extra other =>
          exfalso
          rw [← List.append_assoc] at late
          obtain rfl : last = other := (List.cons.inj (List.append_inj' late rfl).2).1
          rw [flat last (by simp [title])] at ends_
          contradiction

theorem alone_taskLine (found : finish ∈ ends taskLine place) : Alone taskLine (place, finish) := by
  have opening : ends taskOpening place ≠ [] := taskLine_iff.mp (List.ne_nil_of_mem found)
  simp only [taskLine, Pattern.sequence, List.foldr_cons, List.foldr_nil, mem_ends_andThen, mem_taskMark,
    mem_ends_many_iff, mem_ends_nothing] at found
  obtain ⟨start, opens, _, ⟨spaces, digits, gap, rest, marked, rfl⟩, _, ⟨line, behind, same, flat, rfl⟩, rfl⟩ := found
  obtain ⟨_, rfl⟩ := mem_ends_boundary.mp opens
  intro front back filled more whole
  by_contra hidden
  obtain ⟨starts, mark⟩ := nextBoundary_head (nextBoundary_of_opening (taskLine_iff.mp hidden))
  rw [Cursor.skip_ahead] at same
  have text : start.ahead = ("###".toList ++ (spaces ++ ("T-".toList ++ (digits ++ (gap ++ [':']))))) ++ (line ++ behind) := by
    rw [marked.text, same]
    simp
  have plain : '#' ∉ spaces ++ ("T-".toList ++ (digits ++ (gap ++ [':']))) := by
    simp only [List.mem_append, List.mem_singleton, not_or]
    exact ⟨fun inside => absurd (marked.spaces.2 _ inside) (by decide), by decide,
      fun inside => absurd (marked.digits.2 _ inside) (by decide), fun inside => absurd (marked.gap _ inside) (by decide),
      by decide⟩
  have flat : ∀ letter ∈ line, lineTerminator letter = false := fun letter member => by simpa using flat letter member
  simp only [Cursor.skip_ahead] at whole
  obtain ⟨body, last, rfl, ends_⟩ := last_of_starts filled starts
  rcases inside_marks (whole.symm.trans text) plain flat filled starts (by simpa using mark) with marks | ⟨extra, beyond⟩
  · simp only [← List.append_assoc] at marks
    obtain rfl := (List.cons.inj (List.append_inj' marks rfl).2).1
    exact absurd ends_ (by decide)
  · have longer := congrArg List.length beyond
    have all := congrArg List.length (whole.symm.trans text)
    have some_ := List.length_pos_iff.mpr more
    simp only [List.length_append] at longer all
    omega

def White (letters : List Char) : Prop := ∀ letter ∈ letters, whiteSpace letter = true ∧ isSpace letter = true

def Ink (letter : Char) : Prop := whiteSpace letter = false ∧ isSpace letter = false

instance (letters : List Char) : Decidable (White letters) := List.decidableBAll _ letters

instance : DecidablePred Ink := fun _ => inferInstanceAs (Decidable (_ ∧ _))

def numberPart (spaces digits gap : List Char) : List Char := spaces ++ ("T-".toList ++ (digits ++ ':' :: gap))

structure Heading (place : Cursor) (spaces digits gap name tail rest : List Char) : Prop where
  starts : place.startsLine = true
  text : place.ahead = ("###".toList ++ numberPart spaces digits gap) ++ (name ++ (tail ++ rest))
  blank : spaces ≠ [] ∧ White spaces
  number : digits ≠ [] ∧ ∀ letter ∈ digits, decimal letter = true
  wide : gap ≠ [] ∧ White gap
  named : name ≠ []
  first : ∀ letter ∈ name.head?, Ink letter
  last : ∀ letter ∈ name.getLast?, Ink letter
  line : ∀ letter ∈ name, lineTerminator letter = false
  trailing : White tail
  stops : rest.head?.all (· = '\n') = true
  apart : ends nextBoundary
    ⟨("###".toList ++ numberPart spaces digits gap).reverse ++ place.before, name ++ (tail ++ rest), []⟩ = []

variable {texts : Texts}

theorem Heading.plain (heading : Heading place spaces digits gap name tail rest) : '#' ∉ numberPart spaces digits gap := by
  simp only [numberPart, List.mem_append, List.mem_cons, not_or]
  exact ⟨fun inside => absurd (heading.blank.2 _ inside).1 (by decide), by decide,
    fun inside => absurd (heading.number.2 _ inside) (by decide), by decide,
    fun inside => absurd (heading.wide.2 _ inside).1 (by decide)⟩

theorem Heading.marked (heading : Heading place spaces digits gap name tail rest) :
    Marked place.ahead spaces digits [] (gap ++ (name ++ (tail ++ rest))) where
  text := by
    rw [heading.text, numberPart]
    simp
  spaces := ⟨heading.blank.1, fun letter member => (heading.blank.2 letter member).1⟩
  digits := heading.number
  gap := by simp

theorem opensLine_of_startsLine (starts : place.startsLine = true) : opensLine place = true := by
  unfold opensLine
  unfold Cursor.startsLine at starts
  cases first : place.before.head? with
  | none => rfl
  | some letter =>
      rw [first] at starts
      obtain rfl : letter = '\n' := by simpa using starts
      rfl

theorem Heading.opening (heading : Heading place spaces digits gap name tail rest) : ends taskOpening place ≠ [] := by
  rw [ends_taskOpening, if_pos (opensLine_of_startsLine heading.starts)]
  exact List.ne_nil_of_mem (mem_taskMark.mpr ⟨spaces, digits, [], _, heading.marked, rfl⟩)

def Decimals (texts : Texts) : Prop := ∀ letter, decimal letter = true → texts.isDigit letter = true

theorem Heading.openingPython (decimals : Decimals texts) (heading : Heading place spaces digits gap name tail rest) :
    texts.Opening place.ahead spaces digits (gap ++ (name ++ (tail ++ rest))) where
  text := by
    rw [heading.text, numberPart]
    simp
  spaces := ⟨heading.blank.1, fun letter member => (heading.blank.2 letter member).2⟩
  digits := ⟨heading.number.1, fun letter member => decimals letter (heading.number.2 letter member)⟩

theorem Heading.inside (heading : Heading place spaces digits gap name tail rest) (whole : place.ahead = front ++ back)
    (filled : front ≠ []) (found : ends nextBoundary ⟨front.reverse ++ place.before, back, []⟩ ≠ []) :
    ("###".toList ++ numberPart spaces digits gap) ++ name <+: front := by
  obtain ⟨starts, mark⟩ := nextBoundary_head found
  rcases inside_marks (whole.symm.trans heading.text) heading.plain heading.line filled starts mark with same | beyond
  · subst same
    obtain rfl := List.append_cancel_left (whole.symm.trans heading.text)
    exact absurd heading.apart found
  · exact beyond

theorem Heading.firstInk (heading : Heading place spaces digits gap name tail rest) : ∃ letter more,
    name = letter :: more ∧ Ink letter := by
  obtain ⟨letter, more, rfl⟩ := List.exists_cons_of_ne_nil heading.named
  exact ⟨letter, more, rfl, heading.first letter rfl⟩

theorem Heading.lastInk (heading : Heading place spaces digits gap name tail rest) : ∃ body letter,
    name = body ++ [letter] ∧ Ink letter := by
  obtain ⟨body, letter, rfl⟩ := List.eq_nil_or_concat name |>.resolve_left heading.named
  exact ⟨body, letter, List.concat_eq_append, heading.last letter (by simp)⟩

theorem Heading.alone (standard : texts.Standard) (decimals : Decimals texts)
    (heading : Heading place spaces digits gap name tail rest) (found : finish ∈ ends texts.taskHeading place)
    (bounded : ∀ front back, place.ahead = front ++ back → front ≠ [] →
      ends texts.taskHeading ⟨front.reverse ++ place.before, back, []⟩ ≠ [] →
        ends nextBoundary ⟨front.reverse ++ place.before, back, []⟩ ≠ []) : Alone texts.taskHeading (place, finish) := by
  obtain ⟨_, _, _, gap', name', tail', rest', other, white, titled, blanks, _, rfl⟩ := mem_taskHeading.mp found
  obtain ⟨rfl, rfl, same⟩ := (heading.openingPython decimals).unique standard other
  intro front back filled more whole
  by_contra hidden
  simp only at whole hidden
  have boundary := bounded front (back ++ rest') whole filled hidden
  obtain ⟨extra, rfl⟩ := heading.inside whole filled boundary
  obtain ⟨letter, back, rfl⟩ := List.exists_cons_of_ne_nil more
  obtain rfl : letter = '#' := by simpa using (nextBoundary_head boundary).2
  -- the line that starts here starts behind the title
  have break_ : '\n' ∈ extra := by
    obtain ⟨body, last, split, line⟩ := last_of_starts filled (taskHeading_iff.mp hidden).1
    obtain rfl : last = '\n' := by simpa using line
    cases extra using List.reverseRecOn with
    | nil =>
        obtain ⟨title, letter, rfl, ink⟩ := heading.lastInk
        rw [List.append_nil, ← List.append_assoc] at split
        obtain rfl := (List.cons.inj (List.append_inj' split rfl).2).1
        exact absurd ink.2 (by decide)
    | append_singleton extra last =>
        rw [← List.append_assoc] at split
        obtain rfl := (List.cons.inj (List.append_inj' split rfl).2).1
        simp
  have text : (gap' ++ name') ++ tail' = ((gap ++ name) ++ extra) ++ '#' :: back := by
    have behind := heading.text.symm.trans whole
    simp only [List.append_assoc] at behind
    have tails := List.append_cancel_left (List.append_cancel_left (List.append_cancel_left behind))
    rw [tails] at same
    refine @List.append_cancel_right _ _ rest' _ ?_
    simpa using same.symm
  rcases List.append_eq_append_iff.mp text with ⟨inner, _, marks⟩ | ⟨inner, title, _⟩
  · exact absurd (blanks '#' (by simp [marks])) (by decide)
  · rw [List.append_assoc] at title
    rcases List.append_eq_append_iff.mp title with ⟨start, _, line⟩ | ⟨start, spaces, _⟩
    · exact titled.2 (by simp [line, break_])
    · obtain ⟨letter, more, rfl, ink⟩ := heading.firstInk
      have blank := white.2 letter (by simp [spaces])
      rw [ink.2] at blank
      contradiction

theorem rdropWhile_append_of_pos {meets : Char → Bool} (all : ∀ letter ∈ back, meets letter = true) (front : List Char) :
    (front ++ back).rdropWhile meets = front.rdropWhile meets := by
  have reversed : ∀ letter ∈ back.reverse, meets letter = true :=
    fun letter member => all letter (List.mem_reverse.mp member)
  rw [List.rdropWhile, List.reverse_append, List.dropWhile_append_of_pos reversed, ← List.rdropWhile]

theorem Heading.strip_eq (heading : Heading place spaces digits gap name tail rest)
    (white : ∀ letter ∈ back, isSpace letter = true) : (strip (String.ofList (name ++ back))).toList = name := by
  obtain ⟨letter, more, same, ink⟩ := heading.firstInk
  obtain ⟨body, last, other, dark⟩ := heading.lastInk
  have front : (name ++ back).dropWhile isSpace = name ++ back := by
    rw [same, List.cons_append, List.dropWhile_cons_of_neg (by simp [ink.2])]
  rw [strip, String.toList_ofList, String.toList_ofList, front, rdropWhile_append_of_pos white, other,
    List.rdropWhile_concat_neg _ _ _ (by simp [dark.2])]

theorem blank_front {more : List Char} (same : front ++ more = tail ++ rest) (flat : '\n' ∉ front)
    (white : ∀ letter ∈ tail, isSpace letter = true) (stops : rest.head?.all (· = '\n') = true) :
    ∀ letter ∈ front, isSpace letter = true := by
  intro letter member
  rcases List.append_eq_append_iff.mp same with ⟨extra, whole, _⟩ | ⟨extra, whole, behind⟩
  · exact white letter (by simp [whole, member])
  · cases extra with
    | nil => exact white letter (by simpa [whole] using member)
    | cons first extra =>
        obtain rfl : first = '\n' := by simpa [behind] using stops
        exact absurd (by simp [whole]) flat

theorem Heading.captured (heading : Heading place spaces digits gap name tail rest) {name' tail' rest' : List Char}
    (same : name' ++ (tail' ++ rest') = name ++ (tail ++ rest)) (line : '\n' ∉ name')
    (blanks : ∀ letter ∈ tail', isSpace letter = true) (stops : rest'.head?.all (· = '\n') = true) :
    (strip (String.ofList name')).toList = name := by
  have flat : '\n' ∉ name := fun member => absurd (heading.line _ member) (by decide)
  rcases List.append_eq_append_iff.mp same with ⟨extra, title, behind⟩ | ⟨extra, rfl, behind⟩
  · have white := blank_front behind.symm (fun member => flat (by simp [title, member])) blanks stops
    cases extra using List.reverseRecOn with
    | nil =>
        rw [List.append_nil] at title
        have whole := @Heading.strip_eq _ _ _ _ _ _ _ [] heading (by simp)
        rw [List.append_nil] at whole
        rw [← title]
        exact whole
    | append_singleton extra last =>
        obtain ⟨body, letter, other, ink⟩ := heading.lastInk
        rw [other, ← List.append_assoc] at title
        obtain rfl := (List.cons.inj (List.append_inj' title rfl).2).1
        have dark := white letter (by simp)
        rw [ink.2] at dark
        contradiction
  · exact heading.strip_eq (blank_front behind.symm (fun member => line (by simp [member]))
      (fun letter member => (heading.trailing letter member).2) heading.stops)

theorem Heading.python (standard : texts.Standard) (decimals : Decimals texts)
    (heading : Heading place spaces digits gap name tail rest) : ∃ finish, (ends texts.taskHeading place).head? = .some finish ∧
      finish.groups.tail.headD [] = "T-".toList ++ digits ∧ (strip (String.ofList (finish.groups.headD []))).toList = name := by
  obtain ⟨ink, more, same, dark⟩ := heading.firstInk
  have opening := heading.openingPython decimals
  rw [same, List.cons_append] at opening
  obtain ⟨name', tail', rest', whole, titled, blanks, stops, found⟩ := headed standard heading.starts opening
    ⟨heading.wide.1, fun letter member => (heading.wide.2 letter member).2⟩ dark.2
  have title : name' ++ (tail' ++ rest') = name ++ (tail ++ rest) := by
    rw [← whole, same, List.cons_append]
  exact ⟨_, found, rfl, heading.captured title titled.2 blanks stops⟩

variable {meets : Char → Bool} {cursor middle : Cursor} {first second : Pattern} {accepts : Cursor → Bool}

theorem find_andThen (early : (ends first cursor).head? = .some middle)
    (late : (ends second middle).find? accepts = .some finish) :
    (ends (andThen first second) cursor).find? accepts = .some finish := by
  obtain ⟨others, whole⟩ := List.head?_eq_some_iff.mp early
  rw [ends, whole, List.flatMap_cons, List.find?_append, late, Option.some_or]

theorem head_many {read : List Char} (whole : cursor.ahead = read ++ rest) (all : ∀ letter ∈ read, meets letter = true)
    (stops : rest.head?.all (fun letter => !meets letter) = true) :
    (ends (many meets) cursor).head? = .some (cursor.skip read rest) := by
  rw [ends, List.head?_reverse, whole, stretch_last all stops]
  rfl

theorem findSome_stretch {β : Type} {reads : Cursor → Option β} {read more : List Char} {groups : List (List Char)}
    {before : List Char} {value : β} (all : ∀ letter ∈ read, meets letter = true)
    (early : ∀ front back, read = front ++ back → back ≠ [] → reads ⟨front.reverse ++ before, back ++ more, groups⟩ = none)
    (here : reads ⟨read.reverse ++ before, more, groups⟩ = .some value) :
    (stretch meets groups before (read ++ more)).findSome? reads = .some value := by
  induction read generalizing before with
  | nil =>
      have here : reads ⟨before, more, groups⟩ = .some value := here
      rw [List.nil_append]
      cases more with
      | nil => rw [stretch, List.findSome?_cons, here]
      | cons letter more => rw [stretch, List.findSome?_cons, here]
  | cons letter read ih =>
      obtain ⟨good, later⟩ := List.forall_mem_cons.mp all
      have none := early [] (letter :: read) rfl (List.cons_ne_nil _ _)
      rw [List.reverse_nil, List.nil_append, List.cons_append] at none
      rw [List.cons_append, stretch, List.findSome?_cons, none, if_pos good]
      refine ih later (fun front back same filled => ?_) ?_
      · have next := early (letter :: front) back (by rw [same, List.cons_append]) filled
        simpa using next
      · simpa using here

def Closes (more : List Char) : Prop := ∃ white last, more = white ++ last ∧
  (∀ letter ∈ white, whiteSpace letter = true) ∧ last.head?.all lineTerminator = true

theorem Closes.take {more : List Char} (closes : Closes more) (count : Nat) : Closes (more.take count) := by
  obtain ⟨white, last, rfl, blank, stops⟩ := closes
  refine ⟨white.take count, last.take (count - white.length), List.take_append, fun letter member =>
    blank letter (List.take_subset _ _ member), ?_⟩
  cases last with
  | nil =>
      rw [List.take_nil]
      rfl
  | cons letter last =>
      cases count - white.length with
      | zero => rfl
      | succ count => exact stops

theorem Heading.closes (heading : Heading place spaces digits gap name tail rest) : Closes (tail ++ rest) := by
  refine ⟨tail, rest, rfl, fun letter member => (heading.trailing letter member).1, ?_⟩
  cases rest with
  | nil => rfl
  | cons letter rest =>
      obtain rfl : letter = '\n' := by simpa using heading.stops
      rfl

def endsLine (finish : Cursor) : Bool := finish.ahead.head?.all lineTerminator

def titleEnd : Pattern := sequence [
  group (andThen (one fun letter => !lineTerminator letter) (few fun letter => !lineTerminator letter)), many whiteSpace]

theorem Heading.title_open (heading : Heading place spaces digits gap name tail rest) {more : List Char}
    (title : name = front ++ back) (filled : back ≠ []) (ahead : cursor.ahead = back ++ more) :
    (ends (andThen (many whiteSpace) nothing) cursor).find? endsLine = none := by
  rw [List.find?_eq_none, ends_nothing_behind]
  intro finish member
  obtain ⟨read, behind, whole, white, rfl⟩ := mem_ends_many_iff.mp member
  obtain ⟨body, last, other, ink⟩ := heading.lastInk
  have dark : last ∈ back := by
    cases back using List.reverseRecOn with
    | nil => contradiction
    | append_singleton back letter =>
        rw [other, ← List.append_assoc] at title
        obtain rfl := (List.cons.inj (List.append_inj' title rfl).2).1
        simp
  rcases List.append_eq_append_iff.mp (ahead.symm.trans whole) with ⟨extra, same, _⟩ | ⟨extra, same, behind⟩
  · have blank := white last (by simp [same, dark])
    rw [ink.1] at blank
    contradiction
  · cases extra with
    | nil =>
        have blank := white last (by simpa [same] using dark)
        rw [ink.1] at blank
        contradiction
    | cons letter extra =>
        have line := heading.line letter (by simp [title, same])
        simp [endsLine, behind, line]

theorem closes_found {more : List Char} (closes : Closes more) (ahead : cursor.ahead = more) : ∃ finish,
    (ends (andThen (many whiteSpace) nothing) cursor).find? endsLine = .some finish ∧ finish.groups = cursor.groups := by
  obtain ⟨white, last, rfl, blank, stops⟩ := closes
  have there : ((ends (andThen (many whiteSpace) nothing) cursor).find? endsLine).isSome = true := by
    rw [List.find?_isSome, ends_nothing_behind]
    exact ⟨_, mem_ends_many_iff.mpr ⟨white, last, ahead, blank, rfl⟩, stops⟩
  obtain ⟨finish, found⟩ := Option.isSome_iff_exists.mp there
  refine ⟨finish, found, ?_⟩
  have member := List.mem_of_find?_eq_some found
  rw [ends_nothing_behind] at member
  obtain ⟨read, behind, _, _, rfl⟩ := mem_ends_many_iff.mp member
  rfl

theorem Heading.title_found (heading : Heading place spaces digits gap name tail rest) {more : List Char}
    (closes : Closes more) (ahead : cursor.ahead = name ++ more) : ∃ finish,
    (ends titleEnd cursor).find? endsLine = .some finish ∧ finish.groups = name :: cursor.groups := by
  obtain ⟨letter, title, rfl, ink⟩ := heading.firstInk
  have lines : ∀ other ∈ letter :: title, (!lineTerminator other) = true := by
    intro other member
    rw [heading.line other member]
    rfl
  obtain ⟨one_, more_⟩ := List.forall_mem_cons.mp lines
  have captures (read : List Char) (behind : List Char) :
      cursor.read ⟨read.reverse ++ letter :: cursor.before, behind, cursor.groups⟩ = letter :: read :=
    Cursor.read_of_append (by simp)
  obtain ⟨finish, found, same⟩ := @closes_found
    ⟨title.reverse ++ letter :: cursor.before, more, (letter :: title) :: cursor.groups⟩ more closes rfl
  refine ⟨finish, ?_, same⟩
  have shape : titleEnd = andThen (group (andThen (one fun letter => !lineTerminator letter)
    (few fun letter => !lineTerminator letter))) (andThen (many whiteSpace) nothing) := rfl
  rw [shape, ends, List.find?_flatMap, ends, List.findSome?_map, ends, ends, ahead, List.cons_append]
  simp only [one_, if_true, List.flatMap_cons, List.flatMap_nil, List.append_nil]
  rw [ends]
  refine findSome_stretch more_ (fun front back split filled => ?_) ?_
  · have whole : letter :: title = (letter :: front) ++ back := by rw [split, List.cons_append]
    rw [Function.comp_apply]
    exact heading.title_open whole filled rfl
  · rw [Function.comp_apply, captures]
    exact found

def idPart : Pattern := sequence [one fun letter => letter = 'T' || letter = 't', literal "-", some decimal]

theorem head_idPart {before : List Char} {groups : List (List Char)} (filled : digits ≠ [])
    (all : ∀ letter ∈ digits, decimal letter = true) :
    (ends (group idPart) ⟨before, "T-".toList ++ (digits ++ ':' :: rest), groups⟩).head? =
      .some ⟨("T-".toList ++ digits).reverse ++ before, ':' :: rest, ("T-".toList ++ digits) :: groups⟩ := by
  let start : Cursor := ⟨before, "T-".toList ++ (digits ++ ':' :: rest), groups⟩
  have letter : (ends (one fun letter => letter = 'T' || letter = 't') start).head? =
      .some (start.skip ['T'] ('-' :: (digits ++ ':' :: rest))) := rfl
  have inner : (ends idPart start).head? = .some (start.skip ("T-".toList ++ digits) (':' :: rest)) := by
    refine head_andThen letter (head_andThen (head_literal rfl) (head_andThen (head_some rfl filled all rfl) ?_))
    simp [ends, Cursor.skip, start]
  rw [ends, List.head?_map, inner, Option.map_some, Cursor.read_skip]
  rfl

theorem Heading.card (heading : Heading place spaces digits gap name tail rest) {more : List Char} (closes : Closes more) :
    parseSingleTaskBlock (("###".toList ++ numberPart spaces digits gap) ++ (name ++ more)) = .some {
      id := "T-".toList ++ digits, title := name
      raw := trim (("###".toList ++ numberPart spaces digits gap) ++ (name ++ more)) } := by
  have shape : cardHeading = andThen lineOpens (andThen (literal "###") (andThen (some whiteSpace)
    (andThen (group idPart) (andThen (many whiteSpace) (andThen (one (· = ':')) (andThen (many whiteSpace) titleEnd)))))) :=
    rfl
  have text : ("###".toList ++ numberPart spaces digits gap) ++ (name ++ more) =
      "###".toList ++ (spaces ++ ("T-".toList ++ (digits ++ ':' :: (gap ++ (name ++ more))))) := by
    rw [numberPart]
    simp
  have dark : (name ++ more).head?.all (fun letter => !whiteSpace letter) = true := by
    obtain ⟨letter, title, rfl, ink⟩ := heading.firstInk
    simp [ink.1]
  let start : Cursor := ⟨[], "###".toList ++ (spaces ++ ("T-".toList ++ (digits ++ ':' :: (gap ++ (name ++ more))))), []⟩
  let colon : Cursor := ⟨("T-".toList ++ digits).reverse ++ (spaces.reverse ++ ("###".toList.reverse ++ [])),
    ':' :: (gap ++ (name ++ more)), ["T-".toList ++ digits]⟩
  obtain ⟨finish, found, groups⟩ := @Heading.title_found _ _ _ _ _ _ _
    ((colon.skip [':'] (gap ++ (name ++ more))).skip gap (name ++ more)) heading more closes rfl
  have tail : (ends (andThen (many whiteSpace) (andThen (one (· = ':')) (andThen (many whiteSpace) titleEnd))) colon).find?
      endsLine = .some finish := by
    have none : (ends (many whiteSpace) colon).head? = .some (colon.skip [] colon.ahead) :=
      head_many rfl (by simp) rfl
    have mark : (ends (one (· = ':')) (colon.skip [] colon.ahead)).head? =
        .some (colon.skip [':'] (gap ++ (name ++ more))) := rfl
    have wide : (ends (many whiteSpace) (colon.skip [':'] (gap ++ (name ++ more)))).head? =
        .some ((colon.skip [':'] (gap ++ (name ++ more))).skip gap (name ++ more)) :=
      head_many rfl (fun letter member => (heading.wide.2 letter member).1) dark
    exact find_andThen none (find_andThen mark (find_andThen wide found))
  have whole : (ends cardHeading start).find? endsLine = .some finish := by
    have opens : (ends lineOpens start).head? = .some start := rfl
    have marks : (ends (literal "###") start).head? = .some (start.skip "###".toList
        (spaces ++ ("T-".toList ++ (digits ++ ':' :: (gap ++ (name ++ more)))))) := head_literal rfl
    have blank := @head_some (start.skip "###".toList
      (spaces ++ ("T-".toList ++ (digits ++ ':' :: (gap ++ (name ++ more)))))) _ whiteSpace spaces rfl heading.blank.1
      (fun letter member => (heading.blank.2 letter member).1) rfl
    rw [shape]
    exact find_andThen opens (find_andThen marks (find_andThen blank
      (find_andThen (head_idPart heading.number.1 heading.number.2) tail)))
  have read : execLine cardHeading start.ahead = .some finish := by
    have first : places [] start.ahead = start :: places ['#'] start.ahead.tail := rfl
    have here : (ends cardHeading start).find? (fun finish => finish.ahead.head?.all lineTerminator) = .some finish := whole
    rw [execLine, first, List.findSome?_cons, here]
  rw [text, parseSingleTaskBlock, show "###".toList ++ (spaces ++ ("T-".toList ++ (digits ++ ':' :: (gap ++ (name ++ more))))) =
    start.ahead from rfl, read, Option.bind_some, groups]
  rfl

end Thought2Build.Client
