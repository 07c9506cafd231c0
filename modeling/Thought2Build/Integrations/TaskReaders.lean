import Thought2Build.Integrations.TaskHeadings

/-! When the readers of a TASKS document find the same tasks. -/

namespace Thought2Build.Integrations

open Patterns Pattern
open Pipeline (isSpace)

namespace Texts

variable {texts : Texts} {cursor finish place : Cursor} {ahead spaces digits rest : List Char}

theorem rstripLine_append {front back : List Char} {letter : Char} (ink : isSpace letter = false) :
    rstripLine (front ++ letter :: back) = front ++ letter :: rstripLine back := by
  have stays : (letter :: front.reverse).dropWhile isSpace = letter :: front.reverse :=
    List.dropWhile_cons_of_neg (by simp [ink])
  simp only [rstripLine, List.rdropWhile, List.reverse_append, List.reverse_cons, List.append_assoc,
    List.singleton_append, List.dropWhile_append, stays]
  split
  · rename_i none
    rw [List.isEmpty_iff.mp none]
    simp
  · simp

theorem rstripLine_begins (line : List Char) : rstripLine line <+: line := List.rdropWhile_prefix _ _

theorem Opening.line (standard : texts.Standard) (opening : texts.Opening place.ahead spaces digits rest)
    (line : '\n' ∉ spaces) :
    texts.Opening (rstripLine place.line) spaces digits (rstripLine (rest.takeWhile (· ≠ '\n'))) := by
  refine ⟨?_, opening.spaces, opening.digits⟩
  have head : '\n' ∉ "###".toList ++ (spaces ++ ("T-".toList ++ (digits ++ [':']))) := by
    simp only [List.mem_append, not_or]
    exact ⟨by decide, line, by decide, opening.line_digits standard, by decide⟩
  have kept : ∀ letter ∈ "###".toList ++ (spaces ++ ("T-".toList ++ (digits ++ [':']))),
      decide (letter ≠ '\n') = true := fun letter member => decide_eq_true (ne_of_mem_of_not_mem member head)
  have whole : place.ahead = ("###".toList ++ (spaces ++ ("T-".toList ++ (digits ++ [':'])))) ++ rest := by
    rw [opening.text]
    simp
  rw [Cursor.line, whole, List.takeWhile_append_of_pos kept]
  have colon : ("###".toList ++ (spaces ++ ("T-".toList ++ (digits ++ [':'])))) ++ rest.takeWhile (· ≠ '\n') =
      ("###".toList ++ (spaces ++ ("T-".toList ++ digits))) ++ ':' :: rest.takeWhile (· ≠ '\n') := by
    simp
  rw [colon, rstripLine_append (by decide)]
  simp

theorem opening_line_iff (standard : texts.Standard) : texts.Opening (rstripLine place.line) spaces digits rest ↔
    '\n' ∉ spaces ∧ ∃ more, texts.Opening place.ahead spaces digits more ∧
      rest = rstripLine (more.takeWhile (· ≠ '\n')) := by
  constructor
  · intro opening
    have line : '\n' ∉ spaces := by
      intro member
      have inside : '\n' ∈ place.line := by
        refine (rstripLine_begins place.line).subset ?_
        rw [opening.text]
        simp [member]
      simpa using List.mem_takeWhile_imp inside
    obtain ⟨tail, whole⟩ := (rstripLine_begins place.line).trans (List.takeWhile_prefix _)
    have wide : texts.Opening place.ahead spaces digits (rest ++ tail) := by
      refine ⟨?_, opening.spaces, opening.digits⟩
      rw [← whole, opening.text]
      simp
    refine ⟨line, rest ++ tail, wide, ?_⟩
    exact (opening.unique standard (wide.line standard line)).2.2
  · rintro ⟨line, more, opening, rfl⟩
    exact opening.line standard line

theorem mem_evaluatedHeading : finish ∈ ends texts.evaluatedHeading cursor ↔
    cursor.startsLine = true ∧ ∃ spaces digits gap name tail,
      texts.Opening cursor.ahead spaces digits (gap ++ (name ++ tail)) ∧ AllSpaces gap ∧ (name ≠ [] ∧ '\n' ∉ name) ∧
        (tail = [] ∨ tail = ['\n']) ∧ finish =
          ⟨("###".toList ++ (spaces ++ ("T-".toList ++ (digits ++ ':' :: (gap ++ name))))).reverse ++ cursor.before,
            tail, name :: digits :: cursor.groups⟩ := by
  simp only [evaluatedHeading, Pattern.sequence, List.foldr_cons, List.foldr_nil]
  rw [mem_front]
  simp only [mem_ends_andThen, mem_ends_literal_iff, mem_ends_group_some_iff, mem_ends_one_iff, mem_ends_some_iff,
    mem_ends_textEnd, mem_ends_nothing, decide_eq_true_eq]
  refine and_congr_right fun starts => ?_
  constructor
  · rintro ⟨spaces, _, whole, blank, _, ⟨_, mark, rfl⟩, _, ⟨digits, _, number, counted, all, rfl⟩, _,
      ⟨_, _, colon, rfl, rfl⟩, _, ⟨gap, _, more, filled, white, rfl⟩, _, ⟨name, tail, title, named, line, rfl⟩, _,
      ⟨stops, rfl⟩, rfl⟩
    simp only [Cursor.skip_ahead] at mark number colon more title stops
    refine ⟨spaces, digits, gap, name, tail, ⟨by rw [whole, mark, number, colon, more, title], blank, counted, all⟩,
      ⟨filled, white⟩, ⟨named, fun member => line _ member rfl⟩, stops, ?_⟩
    simp [Cursor.skip]
  · rintro ⟨spaces, digits, gap, name, tail, ⟨whole, blank, counted, all⟩, ⟨filled, white⟩, ⟨named, line⟩, stops, rfl⟩
    refine ⟨spaces, _, whole, blank, _, ⟨_, rfl, rfl⟩, _, ⟨digits, _, rfl, counted, all, rfl⟩, _,
      ⟨':', _, rfl, rfl, rfl⟩, _, ⟨gap, _, rfl, filled, white, rfl⟩, _,
      ⟨name, tail, rfl, named, fun letter member => ne_of_mem_of_not_mem member line, rfl⟩, _, ⟨stops, rfl⟩, ?_⟩
    simp [Cursor.skip]

theorem mem_effortHeading : finish ∈ ends texts.effortHeading cursor ↔
    cursor.startsLine = true ∧ ∃ spaces digits rest, texts.Opening cursor.ahead spaces digits rest ∧
      finish = cursor.skip ("###".toList ++ (spaces ++ ("T-".toList ++ (digits ++ [':'])))) rest := by
  simp only [effortHeading, Pattern.sequence, List.foldr_cons, List.foldr_nil]
  rw [mem_front]
  simp only [mem_ends_andThen, mem_ends_literal_iff, mem_ends_one_iff, mem_ends_some_iff, mem_ends_nothing,
    decide_eq_true_eq]
  refine and_congr_right fun starts => ?_
  constructor
  · rintro ⟨spaces, _, whole, blank, _, ⟨_, mark, rfl⟩, _, ⟨digits, _, number, counted, all, rfl⟩, _,
      ⟨_, rest, colon, rfl, rfl⟩, rfl⟩
    simp only [Cursor.skip_ahead] at mark number colon
    refine ⟨spaces, digits, rest, ⟨by rw [whole, mark, number, colon], blank, counted, all⟩, ?_⟩
    simp
  · rintro ⟨spaces, digits, rest, ⟨whole, blank, counted, all⟩, rfl⟩
    refine ⟨spaces, _, whole, blank, _, ⟨_, rfl, rfl⟩, _, ⟨digits, _, rfl, counted, all, rfl⟩, _,
      ⟨':', rest, rfl, rfl, rfl⟩, ?_⟩
    simp

def ReadsAs (texts : Texts) {β : Type} (take : List Char → β) (asks : List Char → List Char → List Char → Prop)
    (place : Cursor) (value : Nat × β) : Prop :=
  place.startsLine = true ∧ ∃ spaces digits rest, texts.Opening place.ahead spaces digits rest ∧
    asks spaces digits rest ∧ value = (place.before.length, take digits)

def number (texts : Texts) (digits : List Char) : Option Nat := .some (texts.int digits)

def exportedAt (texts : Texts) (place : Cursor) : Option (Nat × Option Nat) :=
  (matchAt texts.taskHeading place).map fun found => (found.1.before.length, texts.refNumber found)

def lintedAt (texts : Texts) (place : Cursor) : Option (Nat × Option Nat) :=
  (matchAt texts.taskHeader place).map fun found => (found.1.before.length, texts.headerNumber found)

def evaluatedLine (texts : Texts) (line : List Char) : Option (Option Nat) :=
  (matchStart texts.evaluatedHeading (rstripLine line)).map texts.evaluatedNumber

def pricedLine (texts : Texts) (line : List Char) : Option Unit :=
  (matchStart texts.effortHeading (rstripLine line)).map fun _ => ()

variable {β : Type} {take : List Char → β} {asks asks' : List Char → List Char → List Char → Prop}

theorem readsAs_eq_iff (standard : texts.Standard) {first second : Option (Nat × β)}
    (one : ∀ value, first = .some value ↔ texts.ReadsAs take asks place value)
    (two : ∀ value, second = .some value ↔ texts.ReadsAs take asks' place value) :
    first = second ↔ (place.startsLine = true → ∀ spaces digits rest, texts.Opening place.ahead spaces digits rest →
      (asks spaces digits rest ↔ asks' spaces digits rest)) := by
  constructor
  · intro same starts spaces digits rest opening
    constructor
    · intro wanted
      have read := (one _).mpr ⟨starts, spaces, digits, rest, opening, wanted, rfl⟩
      obtain ⟨_, _, _, _, other, also, _⟩ := (two _).mp (same ▸ read)
      obtain ⟨rfl, rfl, rfl⟩ := opening.unique standard other
      exact also
    · intro wanted
      have read := (two _).mpr ⟨starts, spaces, digits, rest, opening, wanted, rfl⟩
      obtain ⟨_, _, _, _, other, also, _⟩ := (one _).mp (same ▸ read)
      obtain ⟨rfl, rfl, rfl⟩ := opening.unique standard other
      exact also
  · intro alike
    refine Option.ext fun value => ?_
    rw [one, two]
    constructor
    · rintro ⟨starts, spaces, digits, rest, opening, wanted, same⟩
      exact ⟨starts, spaces, digits, rest, opening, (alike starts _ _ _ opening).mp wanted, same⟩
    · rintro ⟨starts, spaces, digits, rest, opening, wanted, same⟩
      exact ⟨starts, spaces, digits, rest, opening, (alike starts _ _ _ opening).mpr wanted, same⟩

theorem head_of_ne_nil {matched : List Cursor} (filled : matched ≠ []) :
    ∃ first ∈ matched, matched.head? = .some first := by
  obtain ⟨first, others, rfl⟩ := List.exists_cons_of_ne_nil filled
  exact ⟨first, List.mem_cons_self, rfl⟩

theorem exportedAt_iff (standard : texts.Standard) (value : Nat × Option Nat) :
    texts.exportedAt place = .some value ↔ texts.ReadsAs texts.number (fun _ _ rest => Titled rest) place value := by
  unfold exportedAt matchAt
  constructor
  · intro read
    obtain ⟨found, first, rfl⟩ := Option.map_eq_some_iff.mp read
    obtain ⟨finish, head, rfl⟩ := Option.map_eq_some_iff.mp first
    have member := List.mem_of_head? head
    obtain ⟨starts, spaces, digits, rest, opening, titled⟩ := taskHeading_iff.mp (List.ne_nil_of_mem member)
    exact ⟨starts, spaces, digits, rest, opening, titled, by rw [refNumber_eq standard opening member]; rfl⟩
  · rintro ⟨starts, spaces, digits, rest, opening, titled, rfl⟩
    obtain ⟨finish, member, head⟩ := head_of_ne_nil
      (taskHeading_iff.mpr ⟨starts, spaces, digits, rest, opening, titled⟩)
    rw [head, Option.map_some, Option.map_some, refNumber_eq standard opening member]
    rfl

theorem lintedAt_iff (standard : texts.Standard) (value : Nat × Option Nat) : texts.lintedAt place = .some value ↔
    texts.ReadsAs texts.number (fun _ digits _ => digits.length = 3) place value := by
  unfold lintedAt matchAt
  constructor
  · intro read
    obtain ⟨found, first, rfl⟩ := Option.map_eq_some_iff.mp read
    obtain ⟨finish, head, rfl⟩ := Option.map_eq_some_iff.mp first
    obtain ⟨starts, spaces, digits, rest, opening, three, rfl⟩ := mem_taskHeader.mp (List.mem_of_head? head)
    exact ⟨starts, spaces, digits, rest, opening, three, by rw [headerNumber_eq standard opening three]; rfl⟩
  · rintro ⟨starts, spaces, digits, rest, opening, three, rfl⟩
    obtain ⟨finish, member, head⟩ := head_of_ne_nil
      (List.ne_nil_of_mem (mem_taskHeader.mpr ⟨starts, spaces, digits, rest, opening, three, rfl⟩))
    obtain ⟨_, _, _, _, other, _, rfl⟩ := mem_taskHeader.mp member
    obtain ⟨rfl, rfl, rfl⟩ := opening.unique standard other
    rw [head, Option.map_some, Option.map_some, headerNumber_eq standard opening three]
    rfl

theorem lineAt_iff {reads : List Char → Option β}
    (read : ∀ taken, reads place.line = .some taken ↔ ∃ spaces digits rest,
      texts.Opening place.ahead spaces digits rest ∧ asks spaces digits rest ∧ taken = take digits)
    (value : Nat × β) : lineAt reads place = .some value ↔ texts.ReadsAs take asks place value := by
  unfold lineAt ReadsAs
  constructor
  · intro found
    split at found
    · rename_i starts
      obtain ⟨taken, reads, rfl⟩ := Option.map_eq_some_iff.mp found
      obtain ⟨spaces, digits, rest, opening, asks, rfl⟩ := (read taken).mp reads
      exact ⟨starts, spaces, digits, rest, opening, asks, rfl⟩
    · contradiction
  · rintro ⟨starts, spaces, digits, rest, opening, asks, rfl⟩
    rw [if_pos starts, (read _).mpr ⟨spaces, digits, rest, opening, asks, rfl⟩]
    rfl

theorem named_iff_line : (∃ gap name tail, rstripLine (rest.takeWhile (· ≠ '\n')) = gap ++ (name ++ tail) ∧
    AllSpaces gap ∧ (name ≠ [] ∧ '\n' ∉ name) ∧ (tail = [] ∨ tail = ['\n'])) ↔ Named rest := by
  constructor
  · rintro ⟨gap, name, tail, whole, ⟨filled, white⟩, ⟨inked, _⟩, _⟩
    have line : '\n' ∉ rstripLine (rest.takeWhile (· ≠ '\n')) := fun member => by
      simpa using List.mem_takeWhile_imp ((rstripLine_begins _).subset member)
    obtain ⟨behind, split⟩ := (rstripLine_begins (rest.takeWhile (· ≠ '\n'))).trans (List.takeWhile_prefix _)
    -- the stripped line does not end in white space, so some character of it is none
    have mixed : ¬∀ letter ∈ rstripLine (rest.takeWhile (· ≠ '\n')), isSpace letter = true := by
      intro all
      have none := List.rdropWhile_eq_nil_iff.mpr all
      rw [rstripLine, List.rdropWhile_idempotent, ← rstripLine, whole] at none
      exact filled (List.append_eq_nil_iff.mp none).1
    generalize rstripLine (rest.takeWhile (· ≠ '\n')) = stripped at *
    obtain ⟨first, gap, rfl⟩ := List.exists_cons_of_ne_nil filled
    have space := white first List.mem_cons_self
    cases ink : stripped.dropWhile isSpace with
    | nil => exact absurd (List.dropWhile_eq_nil_iff.mp ink) mixed
    | cons letter more =>
        have stops := List.head?_dropWhile_not isSpace stripped
        rw [ink] at stops
        refine ⟨stripped.takeWhile isSpace, letter, more ++ behind, ?_, ⟨?_, ?_⟩, ?_, ?_⟩
        · rw [← List.cons_append, ← List.append_assoc, ← ink, List.takeWhile_append_dropWhile, split]
        · simp [whole, space]
        · exact fun letter member => List.mem_takeWhile_imp member
        · exact fun member => line ((List.takeWhile_prefix _).subset member)
        · simpa using stops
  · rintro ⟨gap, letter, more, rfl, white, line, ink⟩
    have breaks : letter ≠ '\n' := by
      rintro rfl
      exact absurd ink (by decide)
    have kept : ∀ letter ∈ gap, decide (letter ≠ '\n') = true :=
      fun letter member => decide_eq_true (ne_of_mem_of_not_mem member line)
    refine ⟨gap, letter :: rstripLine (more.takeWhile (· ≠ '\n')), [], ?_, white, ⟨List.cons_ne_nil _ _, ?_⟩, Or.inl rfl⟩
    · rw [List.takeWhile_append_of_pos kept, List.takeWhile_cons_of_pos (by simpa using breaks),
        rstripLine_append ink, List.append_nil]
    · intro member
      rcases List.mem_cons.mp member with same | later
      · exact breaks same.symm
      · simpa using List.mem_takeWhile_imp ((rstripLine_begins _).subset later)

theorem evaluatedLine_iff (standard : texts.Standard) (taken : Option Nat) :
    texts.evaluatedLine place.line = .some taken ↔ ∃ spaces digits rest,
      texts.Opening place.ahead spaces digits rest ∧ ('\n' ∉ spaces ∧ Named rest) ∧ taken = texts.number digits := by
  unfold evaluatedLine matchStart
  constructor
  · intro read
    obtain ⟨finish, head, rfl⟩ := Option.map_eq_some_iff.mp read
    obtain ⟨_, spaces, digits, gap, name, tail, opening, white, inked, stops, rfl⟩ :=
      mem_evaluatedHeading.mp (List.mem_of_head? head)
    obtain ⟨line, rest, wide, same⟩ := (opening_line_iff standard).mp opening
    exact ⟨spaces, digits, rest, wide, ⟨line, named_iff_line.mp ⟨gap, name, tail, same.symm, white, inked, stops⟩⟩, rfl⟩
  · rintro ⟨spaces, digits, rest, opening, ⟨line, named⟩, rfl⟩
    obtain ⟨gap, name, tail, same, white, inked, stops⟩ := named_iff_line.mpr named
    have narrow := opening.line standard line
    rw [same] at narrow
    have matched := @mem_evaluatedHeading texts { ahead := rstripLine place.line } _ |>.mpr
      ⟨rfl, spaces, digits, gap, name, tail, narrow, white, inked, stops, rfl⟩
    obtain ⟨finish, member, head⟩ := head_of_ne_nil (List.ne_nil_of_mem matched)
    obtain ⟨_, _, _, _, _, _, other, _, _, _, rfl⟩ := mem_evaluatedHeading.mp member
    obtain ⟨_, rfl, _⟩ := narrow.unique standard other
    rw [head]
    rfl

theorem pricedLine_iff (standard : texts.Standard) (taken : Unit) :
    texts.pricedLine place.line = .some taken ↔ ∃ spaces digits rest,
      texts.Opening place.ahead spaces digits rest ∧ '\n' ∉ spaces ∧ taken = () := by
  unfold pricedLine matchStart
  constructor
  · intro read
    obtain ⟨finish, head, rfl⟩ := Option.map_eq_some_iff.mp read
    obtain ⟨_, spaces, digits, _, opening, _⟩ := mem_effortHeading.mp (List.mem_of_head? head)
    obtain ⟨line, rest, wide, _⟩ := (opening_line_iff standard).mp opening
    exact ⟨spaces, digits, rest, wide, line, rfl⟩
  · rintro ⟨spaces, digits, rest, opening, line, rfl⟩
    have matched := @mem_effortHeading texts { ahead := rstripLine place.line } _ |>.mpr
      ⟨rfl, spaces, digits, _, opening.line standard line, rfl⟩
    obtain ⟨finish, _, head⟩ := head_of_ne_nil (List.ne_nil_of_mem matched)
    rw [head]
    rfl

theorem blocksOf_headings {length : Nat} {headings : List (Nat × Option Nat)}
    (numbered : ∀ heading ∈ headings, heading.2.isSome = true) :
    (blocksOf length headings).map (fun block => (block.start, Option.some block.number)) = headings := by
  induction headings with
  | nil => rfl
  | cons heading rest ih =>
      obtain ⟨start, _ | number⟩ := heading
      · exact absurd (numbered _ List.mem_cons_self) (by simp)
      · rw [blocksOf, List.map_cons, ih fun heading member => numbered heading (List.mem_cons_of_mem _ member)]

theorem blocksOf_inj {length : Nat} {first second : List (Nat × Option Nat)}
    (numbered : ∀ heading ∈ first, heading.2.isSome = true) (numbered' : ∀ heading ∈ second, heading.2.isSome = true) :
    blocksOf length first = blocksOf length second ↔ first = second := by
  constructor
  · intro same
    rw [← blocksOf_headings numbered, same, blocksOf_headings numbered']
  · rintro rfl
    rfl

def exportedHeadings (texts : Texts) (text : List Char) : List (Nat × Option Nat) :=
  (findIter texts.taskHeading text).map fun found => (found.1.before.length, texts.refNumber found)

variable {text : List Char}

theorem exportedHeadings_eq (alone : ∀ found ∈ findIter texts.taskHeading text, Alone texts.taskHeading found) :
    texts.exportedHeadings text = (places [] text).filterMap texts.exportedAt := by
  rw [exportedHeadings, findIter, search_eq_filterMap (Nat.lt_succ_self _) alone, List.map_filterMap]
  rfl

theorem lintedHeadings_eq (standard : texts.Standard) :
    ((findIter texts.taskHeader text).map fun found => (found.1.before.length, texts.headerNumber found)) =
      (places [] text).filterMap texts.lintedAt := by
  have alone : ∀ found ∈ findIter texts.taskHeader text, Alone texts.taskHeader found :=
    fun found member => alone_taskHeader standard (mem_search member).1
  rw [findIter, search_eq_filterMap (Nat.lt_succ_self _) alone, List.map_filterMap]
  rfl

theorem evaluatedHeadings_eq (texts : Texts) (text : List Char) :
    ((linesFrom 0 (text.splitOn '\n')).filterMap fun line =>
      (matchStart texts.evaluatedHeading (rstripLine line.2)).map fun finish =>
        (line.1, texts.evaluatedNumber finish)) = (places [] text).filterMap (lineAt texts.evaluatedLine) := by
  rw [← filterMap_lines]
  simp only [evaluatedLine, Option.map_map, Function.comp_def]

theorem pricedStarts_eq (texts : Texts) (text : List Char) :
    ((linesFrom 0 (text.splitOn '\n')).filterMap fun line =>
      (matchStart texts.effortHeading (rstripLine line.2)).map fun _ => line.1) =
        ((places [] text).filterMap (lineAt texts.pricedLine)).map (·.1) := by
  rw [← filterMap_lines, List.map_filterMap]
  simp only [pricedLine, Option.map_map, Function.comp_def]

theorem exportedHeadings_numbered (standard : texts.Standard) :
    ∀ heading ∈ texts.exportedHeadings text, heading.2.isSome = true := by
  intro heading member
  obtain ⟨found, matched, rfl⟩ := List.mem_map.mp member
  have ended := (mem_search matched).1
  obtain ⟨_, _, _, _, opening, _⟩ := taskHeading_iff.mp (List.ne_nil_of_mem ended)
  rw [refNumber_eq standard opening ended]
  rfl

theorem numbered_of_readsAs {reads : Cursor → Option (Nat × Option Nat)}
    (read : ∀ place value, reads place = .some value ↔ texts.ReadsAs texts.number asks place value) :
    ∀ heading ∈ (places [] text).filterMap reads, heading.2.isSome = true := by
  intro heading member
  obtain ⟨place, _, found⟩ := List.mem_filterMap.mp member
  obtain ⟨_, _, _, _, _, _, rfl⟩ := (read place heading).mp found
  rfl

theorem tagged_of_readsAs {reads : Cursor → Option (Nat × β)}
    (read : ∀ place value, reads place = .some value ↔ texts.ReadsAs take asks place value) :
    ∀ place value, reads place = .some value → value.1 = place.before.length := by
  intro place value found
  obtain ⟨_, _, _, _, _, _, rfl⟩ := (read place value).mp found
  rfl

theorem readings_eq_iff (standard : texts.Standard) {first second : Cursor → Option (Nat × β)}
    (one : ∀ place value, first place = .some value ↔ texts.ReadsAs take asks place value)
    (two : ∀ place value, second place = .some value ↔ texts.ReadsAs take asks' place value) :
    (places [] text).filterMap first = (places [] text).filterMap second ↔
      ∀ place ∈ places [] text, place.startsLine = true → ∀ spaces digits rest,
        texts.Opening place.ahead spaces digits rest → (asks spaces digits rest ↔ asks' spaces digits rest) := by
  rw [filterMap_places_inj (tagged_of_readsAs one) (tagged_of_readsAs two)]
  exact forall₂_congr fun place _ => readsAs_eq_iff standard (one place) (two place)

example : (sampleTexts.exportedBlocks "### T-002: B\n### T-001: A").map (·.number) = [2, 1] := by decide

structure ReadersAgree (texts : Texts) (content : String) : Prop where
  linted : texts.lintedBlocks content = texts.exportedBlocks content
  evaluated : texts.evaluatedBlocks content = texts.exportedBlocks content
  priced : ∀ starts ∈ texts.effortStarts content, starts = (texts.exportedBlocks content).map (·.start)

/-- Every opening of a heading is one for all readers or for none: it stands on one line with three digits and a title,
or it has not three digits, nothing that the exporter takes for a title and, where there is a summary, a line break
before the number. -/
def ReadAlike (texts : Texts) (content : String) : Prop :=
  ∀ place ∈ places [] content.toList, place.startsLine = true → ∀ spaces digits rest,
    texts.Opening place.ahead spaces digits rest →
      '\n' ∉ spaces ∧ digits.length = 3 ∧ Named rest ∨
        digits.length ≠ 3 ∧ ¬Titled rest ∧ (hasEffortSummary content = true → '\n' ∈ spaces)

theorem place_of_found {found : Cursor × Cursor} (matched : found ∈ findIter texts.taskHeading text) :
    { found.1 with groups := [] } ∈ places [] text := by
  obtain ⟨_, skipped, whole, behind⟩ := mem_search matched
  exact mem_places.mpr ⟨skipped, found.1.ahead, whole, by rw [← behind]⟩

theorem alone_of_evaluated (standard : texts.Standard)
    (same : (places [] text).filterMap (lineAt texts.evaluatedLine) = texts.exportedHeadings text) :
    ∀ found ∈ findIter texts.taskHeading text, Alone texts.taskHeading found := by
  intro found matched
  have heading : (found.1.before.length, texts.refNumber found) ∈ texts.exportedHeadings text :=
    List.mem_map_of_mem matched
  rw [← same] at heading
  obtain ⟨place, member, read⟩ := List.mem_filterMap.mp heading
  obtain ⟨_, spaces, digits, rest, opening, ⟨line, named⟩, tag⟩ :=
    (lineAt_iff (evaluatedLine_iff standard) _).mp read
  obtain rfl := List.inj_on_of_nodup_map (places_nodup [] text) member (place_of_found matched)
    (Prod.mk.inj tag).1.symm
  exact alone_of_named standard opening line named (mem_search matched).1

theorem ReadAlike.alone {content : String} (standard : texts.Standard) (alike : texts.ReadAlike content) :
    ∀ found ∈ findIter texts.taskHeading content.toList, Alone texts.taskHeading found := by
  intro found matched
  have ended := (mem_search matched).1
  obtain ⟨starts, spaces, digits, rest, opening, titled⟩ := taskHeading_iff.mp (List.ne_nil_of_mem ended)
  rcases alike _ (place_of_found matched) starts spaces digits rest opening with ⟨line, _, named⟩ | ⟨_, untitled, _⟩
  · exact alone_of_named standard opening line named ended
  · exact absurd titled untitled

theorem evaluated_eq_iff (standard : texts.Standard) (content : String) :
    texts.evaluatedBlocks content = texts.exportedBlocks content ↔
      (places [] content.toList).filterMap (lineAt texts.evaluatedLine) = texts.exportedHeadings content.toList := by
  rw [evaluatedBlocks, exportedBlocks, evaluatedHeadings_eq]
  exact blocksOf_inj (numbered_of_readsAs fun _ => lineAt_iff (evaluatedLine_iff standard))
    (exportedHeadings_numbered standard)

theorem linted_eq_iff (standard : texts.Standard) (content : String) :
    texts.lintedBlocks content = texts.exportedBlocks content ↔
      (places [] content.toList).filterMap texts.lintedAt = texts.exportedHeadings content.toList := by
  rw [lintedBlocks, exportedBlocks, lintedHeadings_eq standard]
  exact blocksOf_inj (numbered_of_readsAs fun _ => lintedAt_iff standard) (exportedHeadings_numbered standard)

theorem starts_exportedBlocks (standard : texts.Standard) (content : String) :
    (texts.exportedBlocks content).map (·.start) = (texts.exportedHeadings content.toList).map (·.1) := by
  have headings := congrArg (List.map (·.1)) <|
    @blocksOf_headings content.toList.length _ (@exportedHeadings_numbered texts content.toList standard)
  rwa [List.map_map] at headings

def exportedStart (texts : Texts) (place : Cursor) : Option (Nat × Unit) :=
  (texts.exportedAt place).map fun heading => (heading.1, ())

theorem exportedStart_iff (standard : texts.Standard) (value : Nat × Unit) : texts.exportedStart place = .some value ↔
    texts.ReadsAs (fun _ => ()) (fun _ _ rest => Titled rest) place value := by
  rw [exportedStart, Option.map_eq_some_iff]
  constructor
  · rintro ⟨heading, read, rfl⟩
    obtain ⟨starts, spaces, digits, rest, opening, titled, rfl⟩ := (exportedAt_iff standard heading).mp read
    exact ⟨starts, spaces, digits, rest, opening, titled, rfl⟩
  · rintro ⟨starts, spaces, digits, rest, opening, titled, rfl⟩
    exact ⟨_, (exportedAt_iff standard _).mpr ⟨starts, spaces, digits, rest, opening, titled, rfl⟩, rfl⟩

theorem starts_eq_iff (standard : texts.Standard) :
    ((places [] text).filterMap (lineAt texts.pricedLine)).map (·.1) =
        ((places [] text).filterMap texts.exportedAt).map (·.1) ↔
      ∀ place ∈ places [] text, place.startsLine = true → ∀ spaces digits rest,
        texts.Opening place.ahead spaces digits rest → ('\n' ∉ spaces ↔ Titled rest) := by
  have starts : ((places [] text).filterMap texts.exportedAt).map (·.1) =
      ((places [] text).filterMap texts.exportedStart).map (·.1) := by
    simp only [List.map_filterMap, exportedStart, Option.map_map, Function.comp_def]
  have tags : Function.Injective fun value : Nat × Unit => value.1 := fun _ _ same => Prod.ext same rfl
  rw [starts, (List.map_injective_iff.mpr tags).eq_iff]
  exact readings_eq_iff standard (fun _ => lineAt_iff (pricedLine_iff standard)) fun _ => exportedStart_iff standard

theorem priced_eq_iff (standard : texts.Standard) {content : String}
    (alone : ∀ found ∈ findIter texts.taskHeading content.toList, Alone texts.taskHeading found) :
    (∀ starts ∈ texts.effortStarts content, starts = (texts.exportedBlocks content).map (·.start)) ↔
      ∀ place ∈ places [] content.toList, place.startsLine = true → ∀ spaces digits rest,
        texts.Opening place.ahead spaces digits rest → hasEffortSummary content = true →
          ('\n' ∉ spaces ↔ Titled rest) := by
  rw [starts_exportedBlocks standard, exportedHeadings_eq alone, effortStarts, pricedStarts_eq]
  cases hasEffortSummary content with
  | false => simp
  | true => simpa using starts_eq_iff standard

theorem readers_agree_of_alone (standard : texts.Standard) {content : String}
    (alone : ∀ found ∈ findIter texts.taskHeading content.toList, Alone texts.taskHeading found) :
    texts.ReadersAgree content ↔ texts.ReadAlike content := by
  have lintedAlike := @readings_eq_iff texts _ _ _ _ content.toList standard _ _
    (fun _ => lintedAt_iff standard) (fun _ => exportedAt_iff standard)
  have evaluatedAlike := @readings_eq_iff texts _ _ _ _ content.toList standard _ _
    (fun _ => lineAt_iff (evaluatedLine_iff standard)) (fun _ => exportedAt_iff standard)
  rw [← exportedHeadings_eq alone, ← linted_eq_iff standard] at lintedAlike
  rw [← exportedHeadings_eq alone, ← evaluated_eq_iff standard] at evaluatedAlike
  constructor
  · intro agree place member starts spaces digits rest opening
    have three := lintedAlike.mp agree.linted place member starts spaces digits rest opening
    have named := evaluatedAlike.mp agree.evaluated place member starts spaces digits rest opening
    have line := (priced_eq_iff standard alone).mp agree.priced place member starts spaces digits rest opening
    by_cases titled : Titled rest
    · obtain ⟨line, named⟩ := named.mpr titled
      exact Or.inl ⟨line, three.mpr titled, named⟩
    · refine Or.inr ⟨fun number => titled (three.mp number), titled, fun summary => ?_⟩
      by_contra same
      exact titled ((line summary).mp same)
  · intro alike
    refine ⟨lintedAlike.mpr ?_, evaluatedAlike.mpr ?_, (priced_eq_iff standard alone).mpr ?_⟩
    all_goals
      intro place member starts spaces digits rest opening
      rcases alike place member starts spaces digits rest opening with ⟨line, three, named⟩ | ⟨other, untitled, broken⟩
    · exact iff_of_true three named.titled
    · exact iff_of_false other untitled
    · exact iff_of_true ⟨line, named⟩ named.titled
    · exact iff_of_false (fun evaluated => untitled evaluated.2.titled) untitled
    · exact fun _ => iff_of_true line named.titled
    · exact fun summary => iff_of_false (fun line => line (broken summary)) untitled

/-- The readers of a document agree if and only if every opening of a heading is one for all of them or for none. -/
theorem readers_agree_iff (standard : texts.Standard) (content : String) :
    texts.ReadersAgree content ↔ texts.ReadAlike content := by
  constructor
  · intro agree
    have alone := alone_of_evaluated standard ((evaluated_eq_iff standard content).mp agree.evaluated)
    exact (readers_agree_of_alone standard alone).mp agree
  · intro alike
    exact (readers_agree_of_alone standard (alike.alone standard)).mpr alike

end Texts

theorem sampleTexts_standard : sampleTexts.Standard := by
  refine ⟨by decide, by decide, by decide, by decide, by decide, ?_, ?_⟩
  · intro letter space
    have code : letter.toNat = letter.val.toNat := rfl
    have word : sampleTexts.isWord letter = (((decide (letter.val ≥ 65 ∧ letter.val ≤ 90) ||
        (letter.val ≥ 97 && letter.val ≤ 122)) || (letter.val ≥ 48 && letter.val ≤ 57)) || letter = '_') := rfl
    simp only [isSpace, Bool.or_eq_true, Bool.and_eq_true, decide_eq_true_eq] at space
    simp only [word, Bool.or_eq_false_iff, Bool.and_eq_false_iff, decide_eq_false_iff_not, Char.ext_iff,
      UInt32.le_iff_toNat_le, ge_iff_le, ← UInt32.toNat_inj]
    simp at space ⊢
    omega
  · intro letter digit
    have between : '0' ≤ letter ∧ letter ≤ '9' := by
      by_contra outside
      simp [Texts.isDigit, sampleTexts, outside] at digit
    have word : sampleTexts.isWord letter = ((letter.isAlpha || letter.isDigit) || letter = '_') := rfl
    rw [word, Char.isDigit_iff_toNat.mpr between, Bool.or_true, Bool.true_or]

theorem readers_agree_iff_sample : sampleTexts.Standard ∧
    (sampleTexts.ReadersAgree "### T-001: A" ↔ sampleTexts.ReadAlike "### T-001: A") :=
  ⟨sampleTexts_standard, Texts.readers_agree_iff sampleTexts_standard "### T-001: A"⟩

theorem readers_disagree :
    ¬sampleTexts.ReadersAgree "### T-1000: A" ∧ ¬sampleTexts.ReadersAgree "### T-001:\nA" := by
  constructor
  · intro agree
    have linted : sampleTexts.lintedBlocks "### T-1000: A" ≠ sampleTexts.exportedBlocks "### T-1000: A" := by
      decide
    exact linted agree.linted
  · intro agree
    have evaluated : sampleTexts.evaluatedBlocks "### T-001:\nA" ≠ sampleTexts.exportedBlocks "### T-001:\nA" := by
      decide
    exact evaluated agree.evaluated

end Thought2Build.Integrations
