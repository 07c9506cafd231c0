import Mathlib.Data.List.Nodup
import Thought2Build.Library.Patterns

/-!
The matches of a pattern as the places where it matches. A search that skips from match to match misses no place if
no match begins inside another; the lines of a text are the places behind its line breaks.
-/

namespace Patterns

variable {pattern : Pattern} {meets : Char → Bool} {cursor finish : Cursor}

def Cursor.skip (cursor : Cursor) (read rest : List Char) : Cursor :=
  ⟨read.reverse ++ cursor.before, rest, cursor.groups⟩

@[simp] theorem Cursor.skip_ahead (read rest : List Char) : (cursor.skip read rest).ahead = rest := rfl

@[simp] theorem Cursor.skip_before (read rest : List Char) :
    (cursor.skip read rest).before = read.reverse ++ cursor.before := rfl

@[simp] theorem Cursor.skip_groups (read rest : List Char) : (cursor.skip read rest).groups = cursor.groups := rfl

@[simp] theorem Cursor.skip_skip (first second rest last : List Char) :
    (cursor.skip first rest).skip second last = cursor.skip (first ++ second) last := by
  simp [Cursor.skip]

/-! What each pattern matches -/

theorem mem_ends_andThen {first second : Pattern} : finish ∈ ends (.andThen first second) cursor ↔
    ∃ middle ∈ ends first cursor, finish ∈ ends second middle :=
  List.mem_flatMap

theorem mem_ends_nothing : finish ∈ ends .nothing cursor ↔ finish = cursor :=
  List.mem_singleton

theorem mem_ends_lineStart : finish ∈ ends .lineStart cursor ↔
    cursor.before.head?.all (· = '\n') = true ∧ finish = cursor := by
  rw [ends]
  split <;> simp_all

theorem mem_ends_lineEnd : finish ∈ ends .lineEnd cursor ↔
    cursor.ahead.head?.all (· = '\n') = true ∧ finish = cursor := by
  rw [ends]
  split <;> simp_all

theorem mem_ends_textEnd : finish ∈ ends .textEnd cursor ↔
    (cursor.ahead = [] ∨ cursor.ahead = ['\n']) ∧ finish = cursor := by
  rw [ends]
  split <;> simp_all

theorem mem_ends_boundary {isWord : Char → Bool} : finish ∈ ends (.boundary isWord) cursor ↔
    cursor.before.head?.any isWord ≠ cursor.ahead.head?.any isWord ∧ finish = cursor := by
  rw [ends]
  split <;> simp_all

theorem mem_ends_one_iff : finish ∈ ends (.one meets) cursor ↔
    ∃ letter rest, cursor.ahead = letter :: rest ∧ meets letter = true ∧ finish = cursor.skip [letter] rest := by
  obtain ⟨before, ahead, groups⟩ := cursor
  cases ahead with
  | nil => simp [ends]
  | cons letter rest =>
      simp only [ends, List.cons.injEq]
      split
      · rename_i good
        simp [Cursor.skip, good]
      · rename_i bad
        simp only [List.not_mem_nil, false_iff, not_exists]
        rintro other tail ⟨⟨rfl, rfl⟩, good, _⟩
        exact bad good

theorem mem_ends_many_iff : finish ∈ ends (.many meets) cursor ↔
    ∃ read rest, cursor.ahead = read ++ rest ∧ (∀ letter ∈ read, meets letter = true) ∧
      finish = cursor.skip read rest := by
  rw [ends, List.mem_reverse, mem_stretch]
  constructor
  · rintro ⟨read, whole, behind, same, all⟩
    refine ⟨read, finish.ahead, whole, all, ?_⟩
    rw [Cursor.skip, ← behind, ← same]
  · rintro ⟨read, rest, whole, all, rfl⟩
    exact ⟨read, whole, rfl, rfl, all⟩

theorem mem_ends_few_iff : finish ∈ ends (.few meets) cursor ↔
    ∃ read rest, cursor.ahead = read ++ rest ∧ (∀ letter ∈ read, meets letter = true) ∧
      finish = cursor.skip read rest := by
  rw [← mem_ends_many_iff, ends, ends, List.mem_reverse]

theorem mem_ends_some_iff : finish ∈ ends (.some meets) cursor ↔
    ∃ read rest, cursor.ahead = read ++ rest ∧ read ≠ [] ∧ (∀ letter ∈ read, meets letter = true) ∧
      finish = cursor.skip read rest := by
  rw [Pattern.some, mem_ends_andThen]
  simp only [mem_ends_one_iff, mem_ends_many_iff]
  constructor
  · rintro ⟨_, ⟨letter, tail, whole, good, rfl⟩, read, rest, more, all, rfl⟩
    rw [Cursor.skip_ahead] at more
    refine ⟨letter :: read, rest, by rw [whole, more]; rfl, List.cons_ne_nil _ _, ?_, Cursor.skip_skip _ _ _ _⟩
    exact List.forall_mem_cons.mpr ⟨good, all⟩
  · rintro ⟨read, rest, whole, filled, all, rfl⟩
    obtain ⟨letter, read, rfl⟩ := List.exists_cons_of_ne_nil filled
    obtain ⟨good, more⟩ := List.forall_mem_cons.mp all
    exact ⟨_, ⟨letter, read ++ rest, whole, good, rfl⟩, read, rest, rfl, more, by rw [Cursor.skip_skip]; rfl⟩

theorem mem_ends_literal_iff {text : String} : finish ∈ ends (.literal text) cursor ↔
    ∃ rest, cursor.ahead = text.toList ++ rest ∧ finish = cursor.skip text.toList rest := by
  unfold Pattern.literal
  generalize text.toList = letters
  induction letters generalizing cursor with
  | nil =>
      simp only [List.map_nil, Pattern.sequence, List.foldr_nil, mem_ends_nothing, List.nil_append]
      constructor
      · rintro rfl
        exact ⟨finish.ahead, rfl, rfl⟩
      · rintro ⟨rest, rfl, rfl⟩
        rfl
  | cons letter letters ih =>
      simp only [Pattern.sequence, List.map_cons, List.foldr_cons] at ih ⊢
      simp only [mem_ends_andThen, mem_ends_one_iff, ih, decide_eq_true_eq]
      constructor
      · rintro ⟨_, ⟨first, tail, whole, rfl, rfl⟩, rest, more, rfl⟩
        rw [Cursor.skip_ahead] at more
        exact ⟨rest, by rw [whole, more]; rfl, Cursor.skip_skip _ _ _ _⟩
      · rintro ⟨rest, whole, rfl⟩
        exact ⟨_, ⟨letter, letters ++ rest, whole, rfl, rfl⟩, rest, rfl, by rw [Cursor.skip_skip]; rfl⟩

theorem mem_ends_group_iff {inner : Pattern} : finish ∈ ends (.group inner) cursor ↔
    ∃ middle ∈ ends inner cursor, finish = { middle with groups := cursor.read middle :: middle.groups } := by
  simp [ends, eq_comm]

theorem Cursor.read_skip (read rest : List Char) : cursor.read (cursor.skip read rest) = read :=
  Cursor.read_of_append rfl

theorem mem_ends_group_some_iff : finish ∈ ends (.group (.some meets)) cursor ↔
    ∃ read rest, cursor.ahead = read ++ rest ∧ read ≠ [] ∧ (∀ letter ∈ read, meets letter = true) ∧
      finish = ⟨read.reverse ++ cursor.before, rest, read :: cursor.groups⟩ := by
  simp only [mem_ends_group_iff, mem_ends_some_iff]
  constructor
  · rintro ⟨_, ⟨read, rest, whole, filled, all, rfl⟩, rfl⟩
    rw [Cursor.read_skip]
    exact ⟨read, rest, whole, filled, all, rfl⟩
  · rintro ⟨read, rest, whole, filled, all, rfl⟩
    refine ⟨_, ⟨read, rest, whole, filled, all, rfl⟩, ?_⟩
    rw [Cursor.read_skip]
    rfl

/-! Places -/

def places : List Char → List Char → List Cursor
  | before, [] => [⟨before, [], []⟩]
  | before, letter :: rest => ⟨before, letter :: rest, []⟩ :: places (letter :: before) rest

section

attribute [local simp] places

end

theorem mem_places {before ahead : List Char} {place : Cursor} : place ∈ places before ahead ↔
    ∃ read rest, ahead = read ++ rest ∧ place = ⟨read.reverse ++ before, rest, []⟩ := by
  induction ahead generalizing before with
  | nil =>
      rw [places, List.mem_singleton]
      constructor
      · rintro rfl
        exact ⟨[], [], rfl, rfl⟩
      · rintro ⟨read, rest, none, rfl⟩
        obtain ⟨rfl, rfl⟩ := List.append_eq_nil_iff.mp none.symm
        rfl
  | cons letter ahead ih =>
      rw [places, List.mem_cons, ih]
      constructor
      · rintro (rfl | ⟨read, rest, rfl, rfl⟩)
        · exact ⟨[], letter :: ahead, rfl, rfl⟩
        · exact ⟨letter :: read, rest, rfl, by simp⟩
      · rintro ⟨read, rest, whole, rfl⟩
        cases read with
        | nil => exact Or.inl (by rw [List.nil_append] at whole; rw [whole]; rfl)
        | cons first read =>
            obtain ⟨rfl, rfl⟩ := List.cons.inj whole
            exact Or.inr ⟨read, rest, rfl, by simp⟩

theorem places_append (before read rest : List Char) : ∃ passed, places before (read ++ rest) =
    passed ++ places (read.reverse ++ before) rest ∧
      ∀ place ∈ passed, ∃ front back, read = front ++ back ∧ back ≠ [] ∧
        place = ⟨front.reverse ++ before, back ++ rest, []⟩ := by
  induction read generalizing before with
  | nil => exact ⟨[], rfl, by simp⟩
  | cons letter read ih =>
      obtain ⟨passed, same, each⟩ := ih (letter :: before)
      refine ⟨⟨before, letter :: read ++ rest, []⟩ :: passed, ?_, ?_⟩
      · rw [List.cons_append, places, same]
        simp
      · intro place member
        rcases List.mem_cons.mp member with rfl | later
        · exact ⟨[], letter :: read, rfl, List.cons_ne_nil _ _, rfl⟩
        · obtain ⟨front, back, rfl, filled, rfl⟩ := each place later
          exact ⟨letter :: front, back, rfl, filled, by simp⟩

theorem places_nodup (before ahead : List Char) :
    ((places before ahead).map fun place => place.before.length).Nodup := by
  induction ahead generalizing before with
  | nil => simp [places]
  | cons letter ahead ih =>
      rw [places, List.map_cons, List.nodup_cons]
      refine ⟨?_, ih (letter :: before)⟩
      intro again
      obtain ⟨place, member, same⟩ := List.mem_map.mp again
      obtain ⟨read, rest, _, rfl⟩ := mem_places.mp member
      simp only [List.length_append, List.length_reverse, List.length_cons] at same
      omega

theorem filterMap_places_inj {β : Type} {before ahead : List Char} {first second : Cursor → Option (Nat × β)}
    (firstTags : ∀ place value, first place = some value → value.1 = place.before.length)
    (secondTags : ∀ place value, second place = some value → value.1 = place.before.length) :
    (places before ahead).filterMap first = (places before ahead).filterMap second ↔
      ∀ place ∈ places before ahead, first place = second place := by
  constructor
  · intro same place member
    have moves : ∀ {one two : Cursor → Option (Nat × β)},
        (∀ place value, one place = some value → value.1 = place.before.length) →
        (∀ place value, two place = some value → value.1 = place.before.length) →
        (places before ahead).filterMap one = (places before ahead).filterMap two →
        ∀ value, one place = some value → two place = some value := by
      intro one two oneTags twoTags same value reads
      have found := List.mem_filterMap.mpr ⟨place, member, reads⟩
      rw [same] at found
      obtain ⟨other, held, also⟩ := List.mem_filterMap.mp found
      have tagged := (oneTags place value reads).symm.trans (twoTags other value also)
      obtain rfl := List.inj_on_of_nodup_map (places_nodup before ahead) member held tagged
      exact also
    refine Option.ext fun value => ⟨?_, ?_⟩
    · exact moves firstTags secondTags same value
    · exact moves secondTags firstTags same.symm value
  · exact fun same => List.filterMap_congr same

def matchAt (pattern : Pattern) (place : Cursor) : Option (Cursor × Cursor) :=
  (ends pattern place).head?.map fun finish => (place, finish)

def Alone (pattern : Pattern) (found : Cursor × Cursor) : Prop :=
  ∀ front back, front ≠ [] → back ≠ [] → found.1.ahead = front ++ (back ++ found.2.ahead) →
    ends pattern ⟨front.reverse ++ found.1.before, back ++ found.2.ahead, []⟩ = []

theorem search_eq_filterMap {fuel : Nat} {before ahead : List Char} (enough : ahead.length < fuel)
    (alone : ∀ found ∈ search pattern fuel ⟨before, ahead, []⟩, Alone pattern found) :
    search pattern fuel ⟨before, ahead, []⟩ = (places before ahead).filterMap (matchAt pattern) := by
  induction fuel generalizing before ahead with
  | zero => omega
  | succ fuel ih =>
      cases ahead with
      | nil =>
          rw [search, places, List.filterMap_cons, matchAt]
          cases (ends pattern ⟨before, [], []⟩).head? <;> rfl
      | cons letter rest =>
          rw [List.length_cons] at enough
          have next := @ih (letter :: before) rest (by omega)
          rw [search] at alone ⊢
          cases first : (ends pattern ⟨before, letter :: rest, []⟩).head? with
          | none =>
              simp only [first] at alone ⊢
              rw [next alone, places, List.filterMap_cons, matchAt, first]
              rfl
          | some finish =>
              simp only [first] at alone ⊢
              rw [places, List.filterMap_cons, matchAt, first]
              simp only [Option.map_some, List.cons.injEq, true_and]
              split
              · rename_i empty
                rw [if_pos empty] at alone
                exact next fun found member => alone found (List.mem_cons_of_mem _ member)
              · rename_i filled
                rw [if_neg filled] at alone
                obtain ⟨read, whole, behind⟩ := ends_reads (List.mem_of_head? first)
                obtain ⟨finishBefore, finishAhead, finishGroups⟩ := finish
                obtain rfl : finishBefore = read.reverse ++ before := behind
                cases read with
                | nil => exact absurd rfl filled
                | cons other read =>
                    obtain ⟨rfl, tail⟩ := List.cons.inj whole
                    obtain rfl : rest = read ++ finishAhead := tail
                    obtain ⟨passed, same, each⟩ := places_append (letter :: before) read finishAhead
                    have hidden : passed.filterMap (matchAt pattern) = [] := by
                      refine List.filterMap_eq_nil_iff.mpr fun place member => ?_
                      obtain ⟨front, back, rfl, more, rfl⟩ := each place member
                      have none := alone _ List.mem_cons_self (letter :: front) back (List.cons_ne_nil _ _) more
                        (by simp)
                      simp only [List.reverse_cons, List.append_assoc, List.singleton_append] at none
                      rw [matchAt, none]
                      rfl
                    rw [same, List.filterMap_append, hidden, List.nil_append]
                    simp only [List.reverse_cons, List.append_assoc, List.singleton_append] at alone ⊢
                    refine ih ?_ fun found member => alone found (List.mem_cons_of_mem _ member)
                    rw [List.length_append] at enough
                    omega

theorem search_skip {fuel : Nat} {before read ahead : List Char}
    (none : ∀ front back, back ≠ [] → read = front ++ back →
      ends pattern ⟨front.reverse ++ before, back ++ ahead, []⟩ = []) :
    search pattern (read.length + fuel) ⟨before, read ++ ahead, []⟩ =
      search pattern fuel ⟨read.reverse ++ before, ahead, []⟩ := by
  induction read generalizing before with
  | nil => simp
  | cons letter read ih =>
      have here := none [] (letter :: read) (List.cons_ne_nil _ _) rfl
      rw [List.reverse_nil, List.nil_append, List.cons_append] at here
      rw [List.length_cons, Nat.add_right_comm, search, List.cons_append, here]
      simp only [List.head?_nil, List.reverse_cons, List.append_assoc, List.singleton_append]
      refine ih fun front back filled same => ?_
      have inside := none (letter :: front) back filled (by rw [same]; rfl)
      simpa using inside

theorem head_search {fuel : Nat} (found : (ends pattern cursor).head? = some finish) :
    (search pattern (fuel + 1) cursor).head? = some (cursor, finish) := by
  rw [search, found]
  cases cursor.ahead <;> rfl

theorem search_groups {fuel : Nat} {start : Cursor} (fresh : start.groups = [])
    (found : (cursor, finish) ∈ search pattern fuel start) : cursor.groups = [] := by
  induction fuel generalizing start with
  | zero => simp [search] at found
  | succ fuel ih =>
      rw [search] at found
      split at found
      · simp at found
      · exact ih rfl found
      · rw [(Prod.mk.inj (List.mem_singleton.mp found)).1]
        exact fresh
      · rcases List.mem_cons.mp found with here | later
        · rw [(Prod.mk.inj here).1]
          exact fresh
        · split at later
          · exact ih rfl later
          · exact ih rfl later

theorem mem_search_places {fuel : Nat} {before ahead : List Char}
    (found : (cursor, finish) ∈ search pattern fuel ⟨before, ahead, []⟩) : cursor ∈ places before ahead := by
  obtain ⟨_, skipped, whole, behind⟩ := mem_search found
  have fresh := search_groups rfl found
  obtain ⟨_, rest, _⟩ := cursor
  obtain rfl := behind
  obtain rfl := fresh
  exact mem_places.mpr ⟨skipped, rest, whole, rfl⟩

theorem search_pairwise {fuel : Nat} : (search pattern fuel cursor).Pairwise fun first later =>
    ∃ passed, first.1.ahead = passed ++ later.1.ahead ∧ later.1.before = passed.reverse ++ first.1.before := by
  induction fuel generalizing cursor with
  | zero => exact .nil
  | succ fuel ih =>
      rw [search]
      split
      · exact .nil
      · exact ih
      · exact List.pairwise_singleton _ _
      · rename_i finish letter rest found ahead
        have goesOn : ∀ (next : Cursor) (read : List Char), cursor.ahead = read ++ next.ahead →
            next.before = read.reverse ++ cursor.before → ((cursor, finish) :: search pattern fuel next).Pairwise
              fun first later => ∃ passed, first.1.ahead = passed ++ later.1.ahead ∧
                later.1.before = passed.reverse ++ first.1.before := by
          intro next read whole behind
          refine List.pairwise_cons.mpr ⟨fun later member => ?_, ih⟩
          obtain ⟨_, skipped, more, passed⟩ := mem_search member
          exact ⟨read ++ skipped, by rw [whole, more, List.append_assoc], by rw [passed, behind]; simp⟩
        split
        · exact goesOn ⟨letter :: cursor.before, rest, []⟩ [letter] ahead rfl
        · obtain ⟨read, whole, behind⟩ := ends_reads (List.mem_of_head? found)
          exact goesOn { finish with groups := [] } read whole behind

/-! Lines -/

def linesFrom : Nat → List (List Char) → List (Nat × List Char)
  | _, [] => []
  | start, line :: lines => (start, line) :: linesFrom (start + line.length + 1) lines

def Cursor.startsLine (place : Cursor) : Bool := place.before.head?.all (· = '\n')

def Cursor.line (place : Cursor) : List Char := place.ahead.takeWhile (· ≠ '\n')

def lineAt {β : Type} (reads : List Char → Option β) (place : Cursor) : Option (Nat × β) :=
  if place.startsLine then (reads place.line).map (place.before.length, ·) else none

theorem filterMap_places_lines {β : Type} (reads : List Char → Option β) (before ahead : List Char) :
    ∃ line lines, ahead.splitOn '\n' = line :: lines ∧ ahead.takeWhile (· ≠ '\n') = line ∧
      (places before ahead).filterMap (lineAt reads) = (lineAt reads ⟨before, ahead, []⟩).toList ++
        (linesFrom (before.length + line.length + 1) lines).filterMap fun line => (reads line.2).map (line.1, ·) := by
  induction ahead generalizing before with
  | nil =>
      refine ⟨[], [], rfl, rfl, ?_⟩
      rw [places, List.filterMap_cons]
      cases lineAt reads ⟨before, [], []⟩ <;> rfl
  | cons letter rest ih =>
      obtain ⟨line, lines, split, first, same⟩ := ih (letter :: before)
      have whole : (places before (letter :: rest)).filterMap (lineAt reads) =
          (lineAt reads ⟨before, letter :: rest, []⟩).toList ++
            (places (letter :: before) rest).filterMap (lineAt reads) := by
        rw [places, List.filterMap_cons]
        cases lineAt reads ⟨before, letter :: rest, []⟩ <;> rfl
      rw [whole, same, List.splitOn_cons_eq_if_modifyHead, split]
      by_cases breaks : letter = '\n'
      · subst breaks
        refine ⟨[], line :: lines, rfl, rfl, ?_⟩
        have starts : lineAt reads ⟨'\n' :: before, rest, []⟩ = (reads line).map (before.length + 1, ·) := by
          rw [← first]
          rfl
        rw [starts, linesFrom, List.filterMap_cons]
        cases reads line <;> simp
      · refine ⟨letter :: line, lines, by simp [breaks], ?_, ?_⟩
        · rw [List.takeWhile_cons_of_pos (by simpa using breaks), first]
        have inside : lineAt reads ⟨letter :: before, rest, []⟩ = none := by
          simp [lineAt, Cursor.startsLine, breaks]
        have behind : (letter :: before).length + line.length + 1 = before.length + (letter :: line).length + 1 := by
          simp only [List.length_cons]
          omega
        rw [inside, behind]
        rfl

theorem filterMap_lines {β : Type} (reads : List Char → Option β) (text : List Char) :
    ((linesFrom 0 (text.splitOn '\n')).filterMap fun line => (reads line.2).map (line.1, ·)) =
      (places [] text).filterMap (lineAt reads) := by
  obtain ⟨line, lines, split, first, same⟩ := filterMap_places_lines reads [] text
  have starts : lineAt reads ⟨[], text, []⟩ = (reads line).map (0, ·) := by
    rw [← first]
    rfl
  rw [same, split, linesFrom, List.filterMap_cons, starts]
  cases reads line <;> simp

end Patterns
