import Thought2Build.Integrations.TaskReadersCore

/-! What the expressions for the heading of a task match. -/

namespace Thought2Build.Integrations

open Patterns Pattern
open Pipeline (isSpace)

namespace Texts

variable {texts : Texts} {cursor finish : Cursor} {ahead spaces digits rest : List Char}

structure Standard (texts : Texts) : Prop where
  colon : texts.isDigit ':' = false
  numberSign : texts.isDigit '#' = false
  lineBreak : texts.isDigit '\n' = false
  word : texts.isWord 'T' = true
  mark : texts.isWord ':' = false
  space : ∀ letter, isSpace letter = true → texts.isWord letter = false
  digit : ∀ letter, texts.isDigit letter = true → texts.isWord letter = true

def AllSpaces (letters : List Char) : Prop := letters ≠ [] ∧ ∀ letter ∈ letters, isSpace letter = true

def AllDigits (texts : Texts) (letters : List Char) : Prop :=
  letters ≠ [] ∧ ∀ letter ∈ letters, texts.isDigit letter = true

structure Opening (texts : Texts) (ahead spaces digits rest : List Char) : Prop where
  text : ahead = "###".toList ++ (spaces ++ ("T-".toList ++ (digits ++ ':' :: rest)))
  spaces : AllSpaces spaces
  digits : texts.AllDigits digits

def Titled (rest : List Char) : Prop :=
  ∃ gap letter more, rest = gap ++ letter :: more ∧ AllSpaces gap ∧ letter ≠ '\n'

def Named (rest : List Char) : Prop :=
  ∃ gap letter more, rest = gap ++ letter :: more ∧ AllSpaces gap ∧ '\n' ∉ gap ∧ isSpace letter = false

theorem Named.titled (named : Named rest) : Titled rest := by
  obtain ⟨gap, letter, more, whole, spaces, _, ink⟩ := named
  refine ⟨gap, letter, more, whole, spaces, ?_⟩
  rintro rfl
  exact absurd ink (by decide)

theorem stretch_unique {meets : Char → Bool} {first second tail tail' : List Char} {letter letter' : Char}
    (all : ∀ letter ∈ first, meets letter = true) (all' : ∀ letter ∈ second, meets letter = true)
    (stops : meets letter = false) (stops' : meets letter' = false)
    (same : first ++ letter :: tail = second ++ letter' :: tail') : first = second ∧ tail = tail' := by
  have front : first = second := by
    have one : (first ++ letter :: tail).takeWhile meets = first := by
      rw [List.takeWhile_append_of_pos all, List.takeWhile_cons_of_neg (by simp [stops]), List.append_nil]
    have two : (second ++ letter' :: tail').takeWhile meets = second := by
      rw [List.takeWhile_append_of_pos all', List.takeWhile_cons_of_neg (by simp [stops']), List.append_nil]
    rw [← one, ← two, same]
  subst front
  exact ⟨rfl, (List.cons.inj (List.append_cancel_left same)).2⟩

theorem Opening.unique (standard : texts.Standard) {spaces' digits' rest' : List Char}
    (first : texts.Opening ahead spaces digits rest) (second : texts.Opening ahead spaces' digits' rest') :
    spaces = spaces' ∧ digits = digits' ∧ rest = rest' := by
  have same := List.append_cancel_left (first.text.symm.trans second.text)
  have number : "T-".toList = ['T', '-'] := by decide
  rw [number] at same
  obtain ⟨rfl, tail⟩ := stretch_unique first.spaces.2 second.spaces.2 (by decide) (by decide) same
  obtain ⟨rfl, rfl⟩ := stretch_unique first.digits.2 second.digits.2 standard.colon standard.colon
    (List.cons.inj tail).2
  exact ⟨rfl, rfl, rfl⟩

theorem Opening.line_digits (standard : texts.Standard) (opening : texts.Opening ahead spaces digits rest) :
    '\n' ∉ digits := by
  intro member
  have digit := opening.digits.2 '\n' member
  rw [standard.lineBreak] at digit
  contradiction

theorem mem_front {back : Pattern} :
    finish ∈ ends (andThen lineStart (andThen (literal "###") (andThen (some isSpace) back))) cursor ↔
      cursor.startsLine = true ∧ ∃ spaces tail, cursor.ahead = "###".toList ++ (spaces ++ tail) ∧ AllSpaces spaces ∧
        finish ∈ ends back (cursor.skip ("###".toList ++ spaces) tail) := by
  simp only [mem_ends_andThen, mem_ends_lineStart, mem_ends_literal_iff, mem_ends_some_iff]
  constructor
  · rintro ⟨_, ⟨starts, rfl⟩, _, ⟨tail, whole, rfl⟩, _, ⟨spaces, behind, same, filled, all, rfl⟩, found⟩
    rw [Cursor.skip_ahead] at same
    rw [Cursor.skip_skip] at found
    exact ⟨starts, spaces, behind, by rw [whole, same], ⟨filled, all⟩, found⟩
  · rintro ⟨starts, spaces, tail, whole, ⟨filled, all⟩, found⟩
    refine ⟨cursor, ⟨starts, rfl⟩, _, ⟨spaces ++ tail, whole, rfl⟩, _, ⟨spaces, tail, rfl, filled, all, rfl⟩, ?_⟩
    rwa [Cursor.skip_skip]

theorem mem_threeDigits : finish ∈ ends texts.threeDigits cursor ↔
    ∃ digits rest, cursor.ahead = digits ++ rest ∧ texts.AllDigits digits ∧ digits.length = 3 ∧
      finish = cursor.skip digits rest := by
  simp only [threeDigits, Pattern.sequence, List.foldr_cons, List.foldr_nil, mem_ends_andThen, mem_ends_one_iff,
    mem_ends_nothing]
  constructor
  · rintro ⟨_, ⟨first, _, whole, one, rfl⟩, _, ⟨second, _, more, two, rfl⟩, _, ⟨third, rest, last, three, rfl⟩, rfl⟩
    rw [Cursor.skip_ahead] at more last
    refine ⟨[first, second, third], rest, by rw [whole, more, last]; rfl, ⟨by simp, ?_⟩, rfl, by simp⟩
    simp [one, two, three]
  · rintro ⟨digits, rest, whole, ⟨_, all⟩, three, rfl⟩
    obtain ⟨first, second, third, rfl⟩ := List.length_eq_three.mp three
    simp only [List.mem_cons, List.not_mem_nil, or_false, forall_eq_or_imp, forall_eq] at all
    obtain ⟨one, two, three⟩ := all
    exact ⟨_, ⟨first, _, whole, one, rfl⟩, _, ⟨second, _, rfl, two, rfl⟩, _, ⟨third, rest, rfl, three, rfl⟩, by simp⟩

theorem mem_taskHeader : finish ∈ ends texts.taskHeader cursor ↔
    cursor.startsLine = true ∧ ∃ spaces digits rest, texts.Opening cursor.ahead spaces digits rest ∧
      digits.length = 3 ∧
        finish = cursor.skip ("###".toList ++ (spaces ++ ("T-".toList ++ (digits ++ [':'])))) rest := by
  simp only [taskHeader, Pattern.sequence, List.foldr_cons, List.foldr_nil]
  rw [mem_front]
  simp only [mem_ends_andThen, mem_ends_literal_iff, mem_threeDigits, mem_ends_one_iff, mem_ends_nothing,
    decide_eq_true_eq]
  refine and_congr_right fun starts => ?_
  constructor
  · rintro ⟨spaces, _, whole, blank, _, ⟨_, number, rfl⟩, _, ⟨digits, _, more, all, three, rfl⟩, _,
      ⟨_, rest, last, rfl, rfl⟩, rfl⟩
    simp only [Cursor.skip_ahead] at number more last
    refine ⟨spaces, digits, rest, ⟨by rw [whole, number, more, last], blank, all⟩, three, ?_⟩
    simp
  · rintro ⟨spaces, digits, rest, ⟨whole, blank, all⟩, three, rfl⟩
    refine ⟨spaces, _, whole, blank, _, ⟨_, rfl, rfl⟩, _, ⟨digits, _, rfl, all, three, rfl⟩, _,
      ⟨':', rest, rfl, rfl, rfl⟩, ?_⟩
    simp

theorem mem_taskDep : finish ∈ ends texts.taskDep cursor ↔
    cursor.before.head?.any texts.isWord ≠ cursor.ahead.head?.any texts.isWord ∧ ∃ digits rest,
      cursor.ahead = "T-".toList ++ (digits ++ rest) ∧ texts.AllDigits digits ∧ digits.length = 3 ∧
        (("T-".toList ++ digits).reverse ++ cursor.before).head?.any texts.isWord ≠ rest.head?.any texts.isWord ∧
          finish = ⟨("T-".toList ++ digits).reverse ++ cursor.before, rest, digits :: cursor.groups⟩ := by
  simp only [taskDep, Pattern.sequence, List.foldr_cons, List.foldr_nil, mem_ends_andThen, mem_ends_boundary,
    mem_ends_literal_iff, mem_ends_group_iff, mem_threeDigits, mem_ends_nothing]
  constructor
  · rintro ⟨_, ⟨apart, rfl⟩, _, ⟨_, whole, rfl⟩, _, ⟨_, ⟨digits, rest, more, all, three, rfl⟩, rfl⟩, _,
      ⟨stops, rfl⟩, rfl⟩
    rw [Cursor.skip_ahead] at more
    rw [Cursor.read_skip] at stops ⊢
    refine ⟨apart, digits, rest, by rw [whole, more], all, three, ?_, ?_⟩
    · simpa using stops
    · simp
  · rintro ⟨apart, digits, rest, whole, all, three, stops, rfl⟩
    refine ⟨cursor, ⟨apart, rfl⟩, _, ⟨_, whole, rfl⟩, _, ⟨_, ⟨digits, rest, rfl, all, three, rfl⟩, rfl⟩, _,
      ⟨?_, rfl⟩, ?_⟩
    · simpa using stops
    · rw [Cursor.read_skip]
      simp

theorem any_head_reverse {meets : Char → Bool} {letters : List Char} {value : Bool} (filled : letters ≠ [])
    (all : ∀ letter ∈ letters, meets letter = value) (before : List Char) :
    (letters.reverse ++ before).head?.any meets = value := by
  obtain ⟨last, front, same⟩ := List.exists_cons_of_ne_nil (mt List.reverse_eq_nil_iff.mp filled)
  have member : last ∈ letters := by
    rw [← List.mem_reverse, same]
    exact List.mem_cons_self
  rw [same]
  exact all last member

theorem headerNumber_eq (standard : texts.Standard) {place : Cursor}
    (opening : texts.Opening place.ahead spaces digits rest) (three : digits.length = 3) :
    texts.headerNumber (place,
      place.skip ("###".toList ++ (spaces ++ ("T-".toList ++ (digits ++ [':'])))) rest) = .some (texts.int digits) := by
  have passed : ∀ letter ∈ "###".toList ++ spaces, letter ≠ 'T' := by
    intro letter member
    rcases List.mem_append.mp member with mark | space
    · rintro rfl
      exact absurd mark (by decide)
    · rintro rfl
      exact absurd (opening.spaces.2 'T' space) (by decide)
  have nothing : ∀ front back, back ≠ [] → "###".toList ++ spaces = front ++ back →
      ends texts.taskDep ⟨front.reverse ++ [], back ++ ("T-".toList ++ (digits ++ [':'])), []⟩ = [] := by
    intro front back filled same
    obtain ⟨letter, back, rfl⟩ := List.exists_cons_of_ne_nil filled
    refine List.eq_nil_iff_forall_not_mem.mpr fun finish found => ?_
    obtain ⟨_, number, more, whole, _⟩ := mem_taskDep.mp found
    have letters : "T-".toList = ['T', '-'] := by decide
    rw [letters] at whole
    obtain rfl := (List.cons.inj whole).1
    exact passed 'T' (by rw [same]; simp) rfl
  have length : ("###".toList ++ (spaces ++ ("T-".toList ++ (digits ++ [':'])))).length + 1 =
      ("###".toList ++ spaces).length + (("T-".toList ++ (digits ++ [':'])).length + 1) := by
    simp only [List.length_append]
    omega
  unfold headerNumber
  rw [Cursor.read_skip, findIter, length, ← List.append_assoc "###".toList spaces, search_skip nothing]
  cases first : (ends texts.taskDep
      ⟨("###".toList ++ spaces).reverse ++ [], "T-".toList ++ (digits ++ [':']), []⟩).head? with
  | none =>
      refine absurd (mem_taskDep.mpr ⟨?_, digits, [':'], rfl, opening.digits, three, ?_, rfl⟩)
        (List.eq_nil_iff_forall_not_mem.mp (List.head?_eq_none_iff.mp first) _)
      · have before := any_head_reverse opening.spaces.1
          (fun letter member => standard.space letter (opening.spaces.2 letter member)) ("###".toList.reverse ++ [])
        have ahead : ("T-".toList ++ (digits ++ [':'])).head?.any texts.isWord = true := standard.word
        rw [List.reverse_append, List.append_assoc, before, ahead]
        decide
      · have before := any_head_reverse opening.digits.1
          (fun letter member => standard.digit letter (opening.digits.2 letter member))
          ("T-".toList.reverse ++ (("###".toList ++ spaces).reverse ++ []))
        have ahead : [':'].head?.any texts.isWord = false := standard.mark
        rw [List.reverse_append, List.append_assoc, before, ahead]
        decide
  | some finish =>
      rw [head_search first]
      obtain ⟨_, number, more, whole, _, same, _, rfl⟩ := mem_taskDep.mp (List.mem_of_head? first)
      have tail := List.append_cancel_left whole
      obtain ⟨rfl, _⟩ := List.append_inj tail (three.trans same.symm)
      rfl

theorem mem_taskNumber : finish ∈ ends (group texts.taskNumber) cursor ↔
    ∃ digits rest, cursor.ahead = "T-".toList ++ (digits ++ rest) ∧ texts.AllDigits digits ∧
      finish = ⟨("T-".toList ++ digits).reverse ++ cursor.before, rest, ("T-".toList ++ digits) :: cursor.groups⟩ := by
  simp only [mem_ends_group_iff, taskNumber, Pattern.sequence, List.foldr_cons, List.foldr_nil, mem_ends_andThen,
    mem_ends_literal_iff, mem_ends_some_iff, mem_ends_nothing]
  constructor
  · rintro ⟨_, ⟨_, ⟨_, whole, rfl⟩, _, ⟨digits, rest, more, filled, all, rfl⟩, rfl⟩, rfl⟩
    rw [Cursor.skip_ahead] at more
    rw [Cursor.skip_skip, Cursor.read_skip]
    exact ⟨digits, rest, by rw [whole, more], ⟨filled, all⟩, rfl⟩
  · rintro ⟨digits, rest, whole, ⟨filled, all⟩, rfl⟩
    refine ⟨_, ⟨_, ⟨_, whole, rfl⟩, _, ⟨digits, rest, rfl, filled, all, rfl⟩, rfl⟩, ?_⟩
    rw [Cursor.skip_skip, Cursor.read_skip]
    rfl

theorem mem_title : finish ∈ ends (group (andThen (one (· ≠ '\n')) (few (· ≠ '\n')))) cursor ↔
    ∃ name rest, cursor.ahead = name ++ rest ∧ (name ≠ [] ∧ '\n' ∉ name) ∧
      finish = ⟨name.reverse ++ cursor.before, rest, name :: cursor.groups⟩ := by
  simp only [mem_ends_group_iff, mem_ends_andThen, mem_ends_one_iff, mem_ends_few_iff, decide_eq_true_eq]
  constructor
  · rintro ⟨_, ⟨_, ⟨letter, _, whole, ink, rfl⟩, read, rest, more, all, rfl⟩, rfl⟩
    rw [Cursor.skip_ahead] at more
    rw [Cursor.skip_skip, Cursor.read_skip]
    refine ⟨letter :: read, rest, by rw [whole, more]; rfl, ⟨List.cons_ne_nil _ _, ?_⟩, rfl⟩
    rintro member
    rcases List.mem_cons.mp member with rfl | later
    · exact ink rfl
    · exact all '\n' later rfl
  · rintro ⟨name, rest, whole, ⟨filled, line⟩, rfl⟩
    obtain ⟨letter, read, rfl⟩ := List.exists_cons_of_ne_nil filled
    have same : (cursor.skip [letter] (read ++ rest)).skip read rest = cursor.skip (letter :: read) rest :=
      Cursor.skip_skip _ _ _ _
    refine ⟨_, ⟨_, ⟨letter, read ++ rest, whole, ?_, rfl⟩, read, rest, rfl, ?_, rfl⟩, by
      rw [same, Cursor.read_skip]; rfl⟩
    · rintro rfl
      exact line List.mem_cons_self
    · rintro other member rfl
      exact line (List.mem_cons_of_mem _ member)

theorem mem_taskHeading : finish ∈ ends texts.taskHeading cursor ↔
    cursor.startsLine = true ∧ ∃ spaces digits gap name tail rest,
      texts.Opening cursor.ahead spaces digits (gap ++ (name ++ (tail ++ rest))) ∧ AllSpaces gap ∧
        (name ≠ [] ∧ '\n' ∉ name) ∧ (∀ letter ∈ tail, isSpace letter = true) ∧
          rest.head?.all (· = '\n') = true ∧ finish =
            ⟨("###".toList ++ (spaces ++ ("T-".toList ++ (digits ++ ':' :: (gap ++ (name ++ tail)))))).reverse ++
              cursor.before, rest, name :: ("T-".toList ++ digits) :: cursor.groups⟩ := by
  simp only [taskHeading, Pattern.sequence, List.foldr_cons, List.foldr_nil]
  rw [mem_front]
  simp only [mem_ends_andThen, mem_taskNumber, mem_title, mem_ends_one_iff, mem_ends_some_iff, mem_ends_many_iff,
    mem_ends_lineEnd, mem_ends_nothing, decide_eq_true_eq]
  refine and_congr_right fun starts => ?_
  constructor
  · rintro ⟨spaces, _, whole, blank, _, ⟨digits, _, number, all, rfl⟩, _, ⟨_, _, colon, rfl, rfl⟩, _,
      ⟨gap, _, more, filled, white, rfl⟩, _, ⟨name, _, title, named, rfl⟩, _, ⟨tail, rest, last, blanks, rfl⟩, _,
      ⟨stops, rfl⟩, rfl⟩
    simp only [Cursor.skip_ahead] at number colon more title last stops
    refine ⟨spaces, digits, gap, name, tail, rest, ⟨by rw [whole, number, colon, more, title, last], blank, all⟩,
      ⟨filled, white⟩, named, blanks, stops, ?_⟩
    simp [Cursor.skip]
  · rintro ⟨spaces, digits, gap, name, tail, rest, ⟨whole, blank, all⟩, ⟨filled, white⟩, named, blanks, stops, rfl⟩
    refine ⟨spaces, _, whole, blank, _, ⟨digits, _, rfl, all, rfl⟩, _, ⟨':', _, rfl, rfl, rfl⟩, _,
      ⟨gap, _, rfl, filled, white, rfl⟩, _, ⟨name, _, rfl, named, rfl⟩, _, ⟨tail, rest, rfl, blanks, rfl⟩, _,
      ⟨stops, rfl⟩, ?_⟩
    simp [Cursor.skip]

theorem taskHeading_iff : ends texts.taskHeading cursor ≠ [] ↔
    cursor.startsLine = true ∧ ∃ spaces digits rest, texts.Opening cursor.ahead spaces digits rest ∧ Titled rest := by
  constructor
  · intro found
    obtain ⟨finish, member⟩ := List.exists_mem_of_ne_nil _ found
    obtain ⟨starts, spaces, digits, gap, name, tail, rest, opening, white, ⟨filled, line⟩, _⟩ := mem_taskHeading.mp member
    obtain ⟨letter, name, rfl⟩ := List.exists_cons_of_ne_nil filled
    refine ⟨starts, spaces, digits, _, opening, gap, letter, name ++ (tail ++ rest), rfl, white, ?_⟩
    rintro rfl
    exact line List.mem_cons_self
  · rintro ⟨starts, spaces, digits, _, opening, gap, letter, more, rfl, white, ink⟩
    let name := (letter :: more).takeWhile (· ≠ '\n')
    let rest := (letter :: more).dropWhile (· ≠ '\n')
    have filled : name ≠ [] := by
      simp [name, ink]
    have line : '\n' ∉ name := fun member => by simpa using List.mem_takeWhile_imp member
    have stops : rest.head?.all (· = '\n') = true := by
      have head := List.head?_dropWhile_not (fun letter => decide (letter ≠ '\n')) (letter :: more)
      cases behind : rest.head? with
      | none => rfl
      | some other =>
          simp only [rest] at behind
          rw [behind] at head
          simpa using head
    have whole : gap ++ letter :: more = gap ++ (name ++ ([] ++ rest)) := by
      rw [List.nil_append, List.takeWhile_append_dropWhile]
    rw [whole] at opening
    exact List.ne_nil_of_mem (mem_taskHeading.mpr
      ⟨starts, spaces, digits, gap, name, [], rest, opening, white, ⟨filled, line⟩, by simp, stops, rfl⟩)

theorem refNumber_eq (standard : texts.Standard) (opening : texts.Opening cursor.ahead spaces digits rest)
    (found : finish ∈ ends texts.taskHeading cursor) : texts.refNumber (cursor, finish) = .some (texts.int digits) := by
  obtain ⟨_, _, _, _, _, _, _, other, _, _, _, _, rfl⟩ := mem_taskHeading.mp found
  obtain ⟨_, rfl, _⟩ := opening.unique standard other
  have number : "T-".toList = ['T', '-'] := by decide
  simp [refNumber, number]

theorem Named.gap_line {gap more : List Char} (named : Named (gap ++ more)) (white : AllSpaces gap) : '\n' ∉ gap := by
  obtain ⟨wide, letter, behind, whole, _, line, ink⟩ := named
  rcases List.append_eq_append_iff.mp whole with ⟨extra, rfl, _⟩ | ⟨extra, rfl, tail⟩
  · exact fun member => line (List.mem_append_left _ member)
  · cases extra with
    | nil => simpa using line
    | cons other extra =>
        obtain rfl := (List.cons.inj tail).1
        rw [white.2 letter (by simp)] at ink
        contradiction

theorem back_subset {head tail front back before : List Char} (whole : front ++ back = head ++ tail)
    (line : '\n' ∉ head) (filled : front ≠ []) (starts : (front.reverse ++ before).head?.all (· = '\n') = true) :
    back ⊆ tail := by
  rcases List.append_eq_append_iff.mp whole with ⟨extra, rfl, _⟩ | ⟨extra, _, rfl⟩
  · obtain ⟨last, other, same⟩ := List.exists_cons_of_ne_nil (mt List.reverse_eq_nil_iff.mp filled)
    have breaks : last = '\n' := by simpa [same] using starts
    refine absurd (List.mem_append_left extra ?_) line
    rw [← List.mem_reverse, same, breaks]
    exact List.mem_cons_self
  · exact List.subset_append_right _ _

theorem alone_taskHeader (standard : texts.Standard) (found : finish ∈ ends texts.taskHeader cursor) :
    Alone texts.taskHeader (cursor, finish) := by
  obtain ⟨_, spaces, digits, behind, opening, _, rfl⟩ := mem_taskHeader.mp found
  intro front back filled more whole
  by_contra hidden
  obtain ⟨finish, inside⟩ := List.exists_mem_of_ne_nil _ hidden
  obtain ⟨starts, _, _, _, inner, _⟩ := mem_taskHeader.mp inside
  have same : front ++ back = "###".toList ++ (spaces ++ ("T-".toList ++ (digits ++ [':']))) := by
    have text := opening.text.symm.trans whole
    rw [← List.append_assoc front] at text
    exact @List.append_cancel_right _ _ behind _ (text.symm.trans (by simp))
  have tail := back_subset same (by decide) filled starts
  obtain ⟨letter, back, rfl⟩ := List.exists_cons_of_ne_nil more
  obtain rfl : letter = '#' := (List.cons.inj inner.text).1
  have member := tail List.mem_cons_self
  simp only [List.mem_append] at member
  rcases member with space | number | digit | colon
  · exact absurd (opening.spaces.2 '#' space) (by decide)
  · exact absurd number (by decide)
  · have counts := opening.digits.2 '#' digit
    rw [standard.numberSign] at counts
    contradiction
  · exact absurd colon (by decide)

theorem alone_of_named (standard : texts.Standard) (opening : texts.Opening cursor.ahead spaces digits rest)
    (line : '\n' ∉ spaces) (named : Named rest) (found : finish ∈ ends texts.taskHeading cursor) :
    Alone texts.taskHeading (cursor, finish) := by
  obtain ⟨_, spaces', digits', gap, name, tail, behind, other, white, titled, blanks, _, rfl⟩ := mem_taskHeading.mp found
  obtain ⟨rfl, rfl, rfl⟩ := opening.unique standard other
  have head : '\n' ∉ "###".toList ++ (spaces ++ ("T-".toList ++ (digits ++ ':' :: (gap ++ name)))) := by
    simp only [List.mem_append, List.mem_cons, not_or]
    exact ⟨by decide, line, by decide, opening.line_digits standard, by decide, named.gap_line white, titled.2⟩
  intro front back filled more whole
  by_contra hidden
  obtain ⟨starts, _, _, _, inner, _⟩ := taskHeading_iff.mp hidden
  have same : front ++ back =
      ("###".toList ++ (spaces ++ ("T-".toList ++ (digits ++ ':' :: (gap ++ name))))) ++ tail := by
    have text := opening.text.symm.trans whole
    rw [← List.append_assoc front] at text
    exact @List.append_cancel_right _ _ behind _ (text.symm.trans (by simp))
  have blank := back_subset same head filled starts
  obtain ⟨letter, back, rfl⟩ := List.exists_cons_of_ne_nil more
  have mark : letter = '#' := (List.cons.inj inner.text).1
  have space := blanks letter (blank List.mem_cons_self)
  rw [mark] at space
  exact absurd space (by decide)

end Texts

end Thought2Build.Integrations
