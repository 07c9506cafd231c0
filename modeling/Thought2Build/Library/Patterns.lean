import Mathlib.Data.List.Basic

/-!
Regular expressions that backtrack. From a place of a text a pattern has the ends of its matches in the order
in which they are tried; a search takes the first of them and goes on behind it.
-/

namespace Patterns

/-- A place in a text: what is behind it, nearest first, what is ahead, and the groups captured so far, newest
first. -/
structure Cursor where
  before : List Char := []
  ahead : List Char
  groups : List (List Char) := []
  deriving DecidableEq

inductive Pattern where
  | nothing
  | one (meets : Char → Bool)
  | many (meets : Char → Bool)
  | few (meets : Char → Bool)
  | lineStart
  | lineEnd
  | textEnd
  | boundary (isWord : Char → Bool)
  | andThen (first second : Pattern)
  | either (first second : Pattern)
  | group (inner : Pattern)

namespace Pattern

def sequence (patterns : List Pattern) : Pattern := patterns.foldr andThen nothing

def literal (text : String) : Pattern := sequence (text.toList.map fun letter => one (· = letter))

def some (meets : Char → Bool) : Pattern := andThen (one meets) (many meets)

def optional (pattern : Pattern) : Pattern := either pattern nothing

def plain : Pattern → Bool
  | group _ => false
  | andThen first second | either first second => first.plain && second.plain
  | _ => true

end Pattern

/-- The places within a stretch of characters that meet a condition, nearest first. -/
def stretch (meets : Char → Bool) (groups : List (List Char)) : List Char → List Char → List Cursor
  | before, [] => [⟨before, [], groups⟩]
  | before, letter :: rest => ⟨before, letter :: rest, groups⟩ ::
      if meets letter then stretch meets groups (letter :: before) rest else []

def Cursor.read (start finish : Cursor) : List Char :=
  (finish.before.take (finish.before.length - start.before.length)).reverse

def ends : Pattern → Cursor → List Cursor
  | .nothing, cursor => [cursor]
  | .one meets, cursor =>
      match cursor.ahead with
      | [] => []
      | letter :: rest => if meets letter then [⟨letter :: cursor.before, rest, cursor.groups⟩] else []
  | .many meets, cursor => (stretch meets cursor.groups cursor.before cursor.ahead).reverse
  | .few meets, cursor => stretch meets cursor.groups cursor.before cursor.ahead
  | .lineStart, cursor => if cursor.before.head?.all (· = '\n') then [cursor] else []
  | .lineEnd, cursor => if cursor.ahead.head?.all (· = '\n') then [cursor] else []
  | .textEnd, cursor => if cursor.ahead = [] ∨ cursor.ahead = ['\n'] then [cursor] else []
  | .boundary isWord, cursor =>
      if cursor.before.head?.any isWord ≠ cursor.ahead.head?.any isWord then [cursor] else []
  | .andThen first second, cursor => (ends first cursor).flatMap (ends second)
  | .either first second, cursor => ends first cursor ++ ends second cursor
  | .group inner, cursor =>
      (ends inner cursor).map fun finish => { finish with groups := cursor.read finish :: finish.groups }

/-- `re.match` -/
def matchStart (pattern : Pattern) (text : List Char) : Option Cursor := (ends pattern { ahead := text }).head?

def search (pattern : Pattern) : Nat → Cursor → List (Cursor × Cursor)
  | 0, _ => []
  | fuel + 1, cursor =>
      match (ends pattern cursor).head?, cursor.ahead with
      | none, [] => []
      | none, letter :: rest => search pattern fuel ⟨letter :: cursor.before, rest, []⟩
      | some finish, [] => [(cursor, finish)]
      | some finish, letter :: rest => (cursor, finish) ::
          -- an empty match is left behind by one character
          if finish.before.length = cursor.before.length then
            search pattern fuel ⟨letter :: cursor.before, rest, []⟩
          else search pattern fuel { finish with groups := [] }

def findIter (pattern : Pattern) (text : List Char) : List (Cursor × Cursor) :=
  search pattern (text.length + 1) { ahead := text }

/-! What a match reads -/

variable {pattern : Pattern} {meets : Char → Bool} {cursor finish : Cursor}

section

attribute [local simp] ends search stretch

end

theorem mem_stretch {groups : List (List Char)} {before ahead : List Char} :
    finish ∈ stretch meets groups before ahead ↔
      ∃ read, ahead = read ++ finish.ahead ∧ finish.before = read.reverse ++ before ∧
        finish.groups = groups ∧ ∀ letter ∈ read, meets letter = true := by
  induction ahead generalizing before with
  | nil =>
      constructor
      · intro member
        obtain rfl := List.mem_singleton.mp member
        exact ⟨[], rfl, rfl, rfl, by simp⟩
      · rintro ⟨read, whole, behind, same, _⟩
        obtain ⟨rfl, rest⟩ := List.append_eq_nil_iff.mp whole.symm
        obtain ⟨finishBefore, finishAhead, finishGroups⟩ := finish
        obtain rfl : finishAhead = [] := rest
        obtain rfl : finishBefore = before := behind
        obtain rfl : finishGroups = groups := same
        exact List.mem_singleton.mpr rfl
  | cons letter rest ih =>
      simp only [stretch, List.mem_cons]
      constructor
      · rintro (rfl | later)
        · exact ⟨[], rfl, rfl, rfl, by simp⟩
        · split at later
          · rename_i good
            obtain ⟨read, whole, behind, same, all⟩ := ih.mp later
            exact ⟨letter :: read, by simp [whole], by simp [behind], same, by simpa [good] using all⟩
          · simp at later
      · rintro ⟨read, whole, behind, same, all⟩
        cases read with
        | nil =>
            left
            obtain ⟨finishBefore, finishAhead, finishGroups⟩ := finish
            obtain rfl : finishAhead = letter :: rest := whole.symm
            obtain rfl : finishBefore = before := behind
            obtain rfl : finishGroups = groups := same
            rfl
        | cons first read =>
            obtain ⟨rfl, tail⟩ := List.cons.inj whole
            right
            rw [if_pos (all letter List.mem_cons_self)]
            exact ih.mpr ⟨read, tail, by simp [behind], same, fun other member =>
              all other (List.mem_cons_of_mem _ member)⟩

theorem ends_reads (found : finish ∈ ends pattern cursor) :
    ∃ read, cursor.ahead = read ++ finish.ahead ∧ finish.before = read.reverse ++ cursor.before := by
  induction pattern generalizing cursor finish with
  | nothing =>
      obtain rfl := List.mem_singleton.mp found
      exact ⟨[], rfl, rfl⟩
  | one meets =>
      simp only [ends] at found
      split at found
      · simp at found
      · rename_i letter rest ahead
        split at found
        · obtain rfl := List.mem_singleton.mp found
          exact ⟨[letter], ahead, rfl⟩
        · simp at found
  | many meets =>
      obtain ⟨read, whole, behind, _⟩ := mem_stretch.mp (List.mem_reverse.mp found)
      exact ⟨read, whole, behind⟩
  | few meets =>
      obtain ⟨read, whole, behind, _⟩ := mem_stretch.mp found
      exact ⟨read, whole, behind⟩
  | lineStart | lineEnd | textEnd | boundary =>
      simp only [ends] at found
      split at found
      · obtain rfl := List.mem_singleton.mp found
        exact ⟨[], rfl, rfl⟩
      · simp at found
  | andThen first second firstReads secondReads =>
      obtain ⟨middle, early, late⟩ := List.mem_flatMap.mp found
      obtain ⟨front, whole, behind⟩ := firstReads early
      obtain ⟨back, rest, before⟩ := secondReads late
      exact ⟨front ++ back, by simp [whole, rest], by simp [before, behind]⟩
  | either first second firstReads secondReads =>
      rcases List.mem_append.mp found with early | late
      · exact firstReads early
      · exact secondReads late
  | group inner innerReads =>
      obtain ⟨middle, member, rfl⟩ := List.mem_map.mp found
      obtain ⟨read, whole, behind⟩ := innerReads member
      exact ⟨read, whole, behind⟩

theorem Cursor.read_of_append {read : List Char} (behind : finish.before = read.reverse ++ cursor.before) :
    cursor.read finish = read := by
  simp [Cursor.read, behind]

theorem mem_ends_group {inner : Pattern} (found : finish ∈ ends (.group inner) cursor) :
    ∃ middle ∈ ends inner cursor, finish.ahead = middle.ahead ∧ finish.before = middle.before ∧
      ∃ read, middle.before = read.reverse ++ cursor.before ∧ cursor.ahead = read ++ middle.ahead ∧
        finish.groups = read :: middle.groups := by
  obtain ⟨middle, member, rfl⟩ := List.mem_map.mp found
  obtain ⟨read, whole, behind⟩ := ends_reads member
  exact ⟨middle, member, rfl, rfl, read, behind, whole, by rw [Cursor.read_of_append behind]⟩

theorem groups_of_plain (plain : pattern.plain = true) (found : finish ∈ ends pattern cursor) :
    finish.groups = cursor.groups := by
  induction pattern generalizing cursor finish with
  | nothing => rw [List.mem_singleton.mp found]
  | one meets =>
      simp only [ends] at found
      split at found
      · simp at found
      · split at found
        · rw [List.mem_singleton.mp found]
        · simp at found
  | many meets =>
      obtain ⟨_, _, _, same, _⟩ := mem_stretch.mp (List.mem_reverse.mp found)
      exact same
  | few meets =>
      obtain ⟨_, _, _, same, _⟩ := mem_stretch.mp found
      exact same
  | lineStart | lineEnd | textEnd | boundary =>
      simp only [ends] at found
      split at found
      · rw [List.mem_singleton.mp found]
      · simp at found
  | andThen first second early late =>
      obtain ⟨firstPlain, secondPlain⟩ := Bool.and_eq_true_iff.mp plain
      obtain ⟨middle, reached, rest⟩ := List.mem_flatMap.mp found
      exact (late secondPlain rest).trans (early firstPlain reached)
  | either first second left right =>
      obtain ⟨firstPlain, secondPlain⟩ := Bool.and_eq_true_iff.mp plain
      rcases List.mem_append.mp found with here | there
      · exact left firstPlain here
      · exact right secondPlain there
  | group inner => simp [Pattern.plain] at plain

theorem mem_ends_one (found : finish ∈ ends (.one meets) cursor) :
    ∃ letter, meets letter = true ∧ cursor.ahead = letter :: finish.ahead := by
  simp only [ends] at found
  split at found
  · simp at found
  · rename_i letter rest ahead
    split at found
    · rename_i good
      obtain rfl := List.mem_singleton.mp found
      exact ⟨letter, good, ahead⟩
    · simp at found

theorem mem_ends_literal {text : String} (found : finish ∈ ends (.literal text) cursor) :
    cursor.ahead = text.toList ++ finish.ahead := by
  unfold Pattern.literal at found
  generalize text.toList = letters at found
  induction letters generalizing cursor with
  | nil => rw [List.mem_singleton.mp found, List.nil_append]
  | cons letter rest ih =>
      obtain ⟨middle, first, later⟩ := List.mem_flatMap.mp found
      obtain ⟨read, same, ahead⟩ := mem_ends_one first
      obtain rfl : read = letter := by simpa using same
      rw [ahead, ih later, List.cons_append]

theorem mem_search {fuel : Nat} {start : Cursor} (found : (cursor, finish) ∈ search pattern fuel start) :
    finish ∈ ends pattern cursor ∧
      ∃ skipped, start.ahead = skipped ++ cursor.ahead ∧ cursor.before = skipped.reverse ++ start.before := by
  induction fuel generalizing start with
  | zero => simp [search] at found
  | succ fuel ih =>
      have step : ∀ (next : Cursor) (front : List Char), start.ahead = front ++ next.ahead →
          next.before = front.reverse ++ start.before → (cursor, finish) ∈ search pattern fuel next →
          finish ∈ ends pattern cursor ∧ ∃ skipped, start.ahead = skipped ++ cursor.ahead ∧
            cursor.before = skipped.reverse ++ start.before := by
        intro next front whole behind later
        obtain ⟨ended, skipped, rest, before⟩ := ih later
        exact ⟨ended, front ++ skipped, by simp [whole, rest], by simp [before, behind]⟩
      rw [search] at found
      split at found
      · simp at found
      · rename_i letter rest _ ahead
        exact step ⟨letter :: start.before, rest, []⟩ [letter] ahead rfl found
      · rename_i first ended _
        obtain ⟨rfl, rfl⟩ := Prod.mk.inj (List.mem_singleton.mp found)
        exact ⟨List.mem_of_head? ended, [], rfl, rfl⟩
      · rename_i first letter rest ended ahead
        rcases List.mem_cons.mp found with here | later
        · obtain ⟨rfl, rfl⟩ := Prod.mk.inj here
          exact ⟨List.mem_of_head? ended, [], rfl, rfl⟩
        · split at later
          · exact step ⟨letter :: start.before, rest, []⟩ [letter] ahead rfl later
          · obtain ⟨read, whole, behind⟩ := ends_reads (List.mem_of_head? ended)
            exact step { first with groups := [] } read whole behind later

end Patterns
