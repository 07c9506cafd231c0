import Mathlib.Data.List.Infix

/-! Blocks of a text between an opening and a closing mark. A block ends at the first closing mark; it may be that
no other opening mark stands in it. -/

structure Marks (α : Type) where
  opening : List α
  closing : List α
  opening_ne_nil : opening ≠ []
  closing_ne_nil : closing ≠ []
  nests : Bool

namespace Marks

variable {α : Type} [DecidableEq α] (marks : Marks α)

def toClosing : List α → Option Nat
  | [] => none
  | letter :: rest =>
      if marks.closing <+: letter :: rest then some marks.closing.length
      else if marks.nests = false ∧ marks.opening <+: letter :: rest then none
      else (toClosing rest).map (· + 1)

def blockLength (text : List α) : Option Nat :=
  if marks.opening <+: text then
    (marks.toClosing (text.drop marks.opening.length)).map (marks.opening.length + ·)
  else none

/-- What is before the first block, the block, and what is behind it. -/
def firstBlock : List α → Option (List α × List α × List α)
  | [] => none
  | letter :: rest =>
      match marks.blockLength (letter :: rest) with
      | some length => some ([], (letter :: rest).take length, (letter :: rest).drop length)
      | none => (firstBlock rest).map fun found => (letter :: found.1, found.2)

def removeFrom : Nat → List α → List α
  | _, [] => []
  | skipped + 1, _ :: rest => removeFrom skipped rest
  | 0, letter :: rest =>
      match marks.blockLength (letter :: rest) with
      | some length => removeFrom (length - 1) rest
      | none => letter :: removeFrom 0 rest

def removeBlocks (text : List α) : List α := marks.removeFrom 0 text

def IsBlock (block : List α) : Prop :=
  ∃ body, block = marks.opening ++ body ++ marks.closing ∧ ¬marks.closing <:+: body ++ marks.closing.dropLast ∧
    (marks.nests = false → ¬marks.opening <:+: body)

inductive Leaves : List α → List α → Prop
  | nil : Leaves [] []
  | keep {text kept : List α} (letter : α) : Leaves text kept → Leaves (letter :: text) (letter :: kept)
  | skip {block text kept : List α} : marks.IsBlock block → Leaves text kept → Leaves (block ++ text) kept

variable {marks} {text kept before block after : List α} {length : Nat}

section

attribute [local simp] Marks.toClosing Marks.firstBlock

end

omit [DecidableEq α] in
theorem Leaves.refl (text : List α) : marks.Leaves text text := by
  induction text with
  | nil => exact nil
  | cons letter rest ih => exact keep letter ih

omit [DecidableEq α] in
theorem IsBlock.length_pos (isBlock : marks.IsBlock block) : 0 < block.length := by
  obtain ⟨body, rfl, _⟩ := isBlock
  have long := List.length_pos_iff.mpr marks.closing_ne_nil
  simp only [List.length_append]
  omega

omit [DecidableEq α] in
theorem leaves_append (isBlock : marks.IsBlock block) :
    marks.Leaves (before ++ (block ++ after)) (before ++ after) := by
  induction before with
  | nil =>
      rw [List.nil_append, List.nil_append]
      exact Leaves.skip isBlock (Leaves.refl after)
  | cons letter rest ih => exact Leaves.keep letter ih

/-! What the functions find -/

theorem toClosing_eq (found : marks.toClosing text = some length) :
    ∃ body after, text = body ++ marks.closing ++ after ∧ length = body.length + marks.closing.length ∧
      ¬marks.closing <:+: body ++ marks.closing.dropLast ∧ (marks.nests = false → ¬marks.opening <:+: body) := by
  induction text generalizing length with
  | nil => simp [toClosing] at found
  | cons letter rest ih =>
      rw [toClosing] at found
      split at found
      · rename_i closes
        obtain ⟨after, whole⟩ := closes
        obtain rfl := Option.some.inj found
        refine ⟨[], after, whole.symm, (Nat.zero_add _).symm, ?_, ?_⟩
        · intro shorter
          have fits := shorter.length_le
          have long := List.length_pos_iff.mpr marks.closing_ne_nil
          rw [List.nil_append, List.length_dropLast] at fits
          omega
        · exact fun _ opens => marks.opening_ne_nil (List.eq_nil_of_infix_nil opens)
      · rename_i goesOn
        split at found
        · contradiction
        · rename_i single
          obtain ⟨count, later, rfl⟩ := Option.map_eq_some_iff.mp found
          obtain ⟨body, after, rfl, same, first, flat⟩ := ih later
          have within : letter :: (body ++ marks.closing.dropLast) <+:
              letter :: (body ++ marks.closing ++ after) := by
            rw [List.append_assoc, List.prefix_cons_inj, List.prefix_append_right_inj]
            exact (List.dropLast_prefix _).trans (List.prefix_append _ _)
          refine ⟨letter :: body, after, rfl, by simp [same]; omega, ?_, ?_⟩
          · intro again
            rcases List.infix_cons_iff.mp again with here | there
            · exact goesOn (here.trans within)
            · exact first there
          · intro level again
            rcases List.infix_cons_iff.mp again with here | there
            · exact single ⟨level, here.trans (by simp)⟩
            · exact flat level there

theorem blockLength_eq (found : marks.blockLength text = some length) :
    ∃ block after, text = block ++ after ∧ length = block.length ∧ marks.IsBlock block := by
  unfold blockLength at found
  split at found
  · rename_i opens
    obtain ⟨rest, rfl⟩ := opens
    obtain ⟨count, later, rfl⟩ := Option.map_eq_some_iff.mp found
    rw [List.drop_left] at later
    obtain ⟨body, after, rfl, rfl, first, flat⟩ := toClosing_eq later
    exact ⟨marks.opening ++ body ++ marks.closing, after, by simp, by simp, body, rfl, first, flat⟩
  · contradiction

theorem firstBlock_eq (found : marks.firstBlock text = some (before, block, after)) :
    text = before ++ (block ++ after) ∧ marks.IsBlock block := by
  induction text generalizing before with
  | nil => simp [firstBlock] at found
  | cons letter rest ih =>
      rw [firstBlock] at found
      split at found
      · rename_i length here
        obtain ⟨own, back, whole, rfl, isBlock⟩ := blockLength_eq here
        obtain ⟨rfl, same⟩ := Prod.mk.inj (Option.some.inj found)
        obtain ⟨rfl, rfl⟩ := Prod.mk.inj same
        rw [whole, List.take_left, List.drop_left]
        exact ⟨rfl, isBlock⟩
      · obtain ⟨⟨front, own, back⟩, later, same⟩ := Option.map_eq_some_iff.mp found
        obtain ⟨first, same⟩ := Prod.mk.inj same
        obtain ⟨rfl, rfl⟩ := Prod.mk.inj same
        obtain ⟨rfl, isBlock⟩ := ih later
        exact ⟨by rw [← first]; rfl, isBlock⟩

theorem removeFrom_leaves {front : List α} (whole : text = front ++ after) :
    marks.Leaves after (marks.removeFrom front.length text) := by
  induction text generalizing front after with
  | nil =>
      obtain ⟨rfl, rfl⟩ := List.append_eq_nil_iff.mp whole.symm
      exact Leaves.nil
  | cons letter rest ih =>
      cases front with
      | nil =>
          obtain rfl : letter :: rest = after := whole
          rw [List.length_nil, removeFrom]
          split
          · rename_i length here
            obtain ⟨block, back, same, rfl, isBlock⟩ := blockLength_eq here
            cases block with
            | nil => exact absurd isBlock.length_pos (Nat.lt_irrefl 0)
            | cons first block =>
                obtain ⟨rfl, own⟩ := List.cons.inj same
                rw [same]
                exact Leaves.skip isBlock (ih own)
          · have later : marks.Leaves rest (marks.removeFrom ([] : List α).length rest) := ih rfl
            exact Leaves.keep letter later
      | cons other front =>
          obtain ⟨rfl, rfl⟩ := List.cons.inj whole
          exact ih rfl

theorem removeBlocks_leaves (text : List α) : marks.Leaves text (marks.removeBlocks text) :=
  @removeFrom_leaves _ _ _ _ _ [] rfl

/-! Texts that hold a block -/

def Apart (marks : Marks α) : Prop :=
  ∀ count < marks.opening.length, 0 < count →
    ¬marks.opening.drop count <+: marks.closing ∧ ¬marks.closing <+: marks.opening.drop count

instance (marks : Marks α) : Decidable marks.Apart :=
  inferInstanceAs (Decidable (∀ count < marks.opening.length, _))

def Opens (marks : Marks α) (text : List α) : Prop :=
  ∃ body after, text = marks.opening ++ (body ++ (marks.closing ++ after))

theorem opens_of_toClosing (apart : marks.Apart) {body : List α}
    (none : marks.toClosing (body ++ (marks.closing ++ after)) = none) :
    ∃ front rest, body ++ (marks.closing ++ after) = front ++ rest ∧ marks.Opens rest := by
  induction body with
  | nil =>
      obtain ⟨letter, closing, same⟩ := List.exists_cons_of_ne_nil marks.closing_ne_nil
      have closes : marks.closing <+: letter :: (closing ++ after) := by
        rw [same]
        exact List.prefix_append (letter :: closing) after
      rw [List.nil_append, same, List.cons_append, toClosing, if_pos closes] at none
      contradiction
  | cons letter body ih =>
      rw [List.cons_append, toClosing] at none
      split at none
      · contradiction
      · split at none
        · rename_i opens
          obtain ⟨rest, whole⟩ := opens.2
          rw [← List.cons_append] at whole
          refine ⟨[], _, rfl, ?_⟩
          rcases List.append_eq_append_iff.mp whole with ⟨inside, same, _⟩ | ⟨back, same, behind⟩
          · exact ⟨inside, after, by rw [← List.append_assoc, ← same]; rfl⟩
          · by_cases proper : back = []
            · rw [proper, List.append_nil] at same
              exact ⟨[], after, by rw [same]; rfl⟩
            · have long := List.length_pos_iff.mpr proper
              have inside : (letter :: body).length < marks.opening.length := by
                rw [same, List.length_append]
                omega
              obtain ⟨short, long⟩ := apart _ inside (Nat.succ_pos _)
              rw [same, List.drop_left] at short long
              rcases List.append_eq_append_iff.mp behind with ⟨more, tail, _⟩ | ⟨more, tail, _⟩
              · exact absurd ⟨more, tail.symm⟩ long
              · exact absurd ⟨more, tail.symm⟩ short
        · obtain ⟨front, rest, same, opens⟩ := ih (Option.map_eq_none_iff.mp none)
          exact ⟨letter :: front, rest, by rw [List.cons_append, same]; rfl, opens⟩

theorem firstBlock_append (front : List α) (found : marks.firstBlock text ≠ none) :
    marks.firstBlock (front ++ text) ≠ none := by
  induction front with
  | nil => exact found
  | cons letter front ih =>
      rw [List.cons_append, firstBlock]
      split
      · exact Option.some_ne_none _
      · exact mt Option.map_eq_none_iff.mp ih

theorem firstBlock_of_opens (apart : marks.Apart) (opens : marks.Opens text) : marks.firstBlock text ≠ none := by
  induction size : text.length using Nat.strong_induction_on generalizing text with
  | _ size ih =>
      subst size
      obtain ⟨body, after, rfl⟩ := opens
      cases ends : marks.toClosing (body ++ (marks.closing ++ after)) with
      | none =>
          obtain ⟨front, rest, same, opens⟩ := opens_of_toClosing apart ends
          have long := List.length_pos_iff.mpr marks.opening_ne_nil
          rw [same, ← List.append_assoc]
          exact firstBlock_append _ (ih rest.length (by simp [same]; omega) opens rfl)
      | some length =>
          have here : marks.blockLength (marks.opening ++ (body ++ (marks.closing ++ after))) =
              some (marks.opening.length + length) := by
            rw [blockLength, if_pos (List.prefix_append _ _), List.drop_left, ends]
            rfl
          obtain ⟨letter, opening, same⟩ := List.exists_cons_of_ne_nil marks.opening_ne_nil
          rw [same, List.cons_append] at here ⊢
          rw [firstBlock, here]
          exact Option.some_ne_none _

end Marks
