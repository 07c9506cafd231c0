import Thought2Build.Pipeline.ProblemCompressorCore

/-!
The clamp gives its budget to the normative blocks first, but the blocks are joined in the order of the text and cut
once more: what is cut then may be normative.
-/

namespace Thought2Build.Pipeline

open Integrations (Texts sampleTexts)

namespace Compressor

variable {texts : Texts} {text front : DocText} {budget size : Nat} {blocks : List DocText}

section

attribute [local simp] utf8Length estimate joinBlocks reserve fill truncateToTokens

end

theorem utf8Length_append (front back : DocText) : utf8Length (front ++ back) = utf8Length front + utf8Length back := by
  simp [utf8Length]

theorem estimate_le_iff (positive : 0 < budget) : estimate text ≤ budget ↔ utf8Length text ≤ 4 * budget := by
  unfold estimate
  split
  · rename_i empty
    simp [empty, utf8Length]
  · omega

theorem estimate_pos (some : text ≠ []) : 0 < estimate text := by
  unfold estimate
  rw [if_neg some]
  omega

theorem estimate_of_front (part : front <+: text) : estimate front ≤ estimate text := by
  obtain ⟨back, rfl⟩ := part
  unfold estimate
  split
  · exact Nat.zero_le _
  · rename_i some
    rw [if_neg (by simp [some]), utf8Length_append]
    omega

theorem rstrip_front (text : DocText) : rstrip text <+: text := List.rdropWhile_prefix _ _

theorem beforeLast_prefix (letter : Char) (text : DocText) : beforeLast letter text <+: text := by
  unfold beforeLast
  rw [← List.reverse_suffix, List.reverse_reverse]
  exact (List.drop_suffix ..).trans (List.dropWhile_suffix _)

theorem snapBack_front (front : DocText) : snapBack front <+: front := by
  unfold snapBack
  split
  · exact beforeLast_prefix ..
  · split
    · exact beforeLast_prefix ..
    · exact List.prefix_refl _

theorem truncateToTokens_front (text : DocText) (budget : Nat) : truncateToTokens text budget <+: text := by
  unfold truncateToTokens
  split
  · exact List.nil_prefix
  · split
    · exact List.prefix_refl _
    · exact ((rstrip_front _).trans (snapBack_front _)).trans (List.take_prefix ..)

def within : Nat → DocText → DocText
  | _, [] => []
  | bytes, letter :: rest => if letter.utf8Size ≤ bytes then letter :: within (bytes - letter.utf8Size) rest else []

theorem take_eq_within {bytes : Nat} (short : size ≤ text.length) (fits : utf8Length (text.take size) ≤ bytes)
    (most : ∀ more, more ≤ text.length → utf8Length (text.take more) ≤ bytes → more ≤ size) :
    text.take size = within bytes text := by
  induction text generalizing size bytes with
  | nil => simp [within]
  | cons letter rest ih =>
      cases size with
      | zero =>
          have wide : ¬letter.utf8Size ≤ bytes := by
            intro one
            have first := most 1 (by simp) (by simpa [utf8Length] using one)
            omega
          rw [within, if_neg wide]
          rfl
      | succ size =>
          simp only [List.take_succ_cons, utf8Length, List.map_cons, List.sum_cons] at fits
          rw [within, if_pos (by omega), List.take_succ_cons]
          refine congrArg (letter :: ·) (ih (by simpa using short) (by simp only [utf8Length]; omega) ?_)
          intro more shorter small
          have next := most (more + 1) (by simpa using shorter) (by
            simp only [List.take_succ_cons, utf8Length, List.map_cons, List.sum_cons] at small ⊢
            omega)
          omega

example : within 4 "aébc".toList = "aéb".toList := by decide

theorem take_longestFit (positive : 0 < budget) : text.take (longestFit text budget) = within (4 * budget) text := by
  have falls : ∀ less more, less ≤ more → decide (estimate (text.take more) ≤ budget) = true →
      decide (estimate (text.take less) ≤ budget) = true := by
    intro less more smaller fits
    have shorter : text.take less <+: text.take more := List.take_prefix_take_left smaller
    exact decide_eq_true ((estimate_of_front shorter).trans (of_decide_eq_true fits))
  have start : decide (estimate (text.take 0) ≤ budget) = true := by simp [estimate]
  obtain ⟨fits, short, most⟩ :=
    Bisection.last_spec falls (Nat.le_refl (text.length - 0)) (Nat.zero_le text.length) start
  refine take_eq_within short ((estimate_le_iff positive).mp (of_decide_eq_true fits)) fun more shorter small => ?_
  exact most more shorter (decide_eq_true ((estimate_le_iff positive).mpr small))

theorem utf8Length_within (bytes : Nat) (text : DocText) : utf8Length (within bytes text) ≤ bytes := by
  induction text generalizing bytes with
  | nil => simp [within, utf8Length]
  | cons letter rest ih =>
      rw [within]
      split
      · rename_i fits
        have later := ih (bytes - letter.utf8Size)
        simp only [utf8Length, List.map_cons, List.sum_cons] at later ⊢
        omega
      · simp [utf8Length]

def cutText (bytes : Nat) (text : DocText) : DocText :=
  if utf8Length text ≤ bytes then text else rstrip (snapBack (within bytes text))

theorem truncateToTokens_eq (positive : 0 < budget) : truncateToTokens text budget = cutText (4 * budget) text := by
  unfold truncateToTokens cutText
  split
  · rename_i none
    have empty : text = [] := none.resolve_left positive.ne'
    simp [empty, utf8Length]
  · rw [take_longestFit positive]
    by_cases fits : estimate text ≤ budget
    · rw [if_pos fits, if_pos ((estimate_le_iff positive).mp fits)]
    · rw [if_neg fits, if_neg (fun small => fits ((estimate_le_iff positive).mpr small))]

theorem estimate_truncate (positive : 0 < budget) (text : DocText) :
    estimate (truncateToTokens text budget) ≤ budget := by
  rw [truncateToTokens_eq positive]
  unfold cutText
  split
  · rename_i fits
    exact (estimate_le_iff positive).mpr fits
  · have small : estimate (within (4 * budget) text) ≤ budget :=
      (estimate_le_iff positive).mpr (utf8Length_within ..)
    exact (estimate_of_front ((rstrip_front _).trans (snapBack_front _))).trans small

theorem getLast_truncate (shorter : truncateToTokens text budget ≠ text) :
    (truncateToTokens text budget).getLast?.all (fun letter => !isSpace letter) = true := by
  unfold truncateToTokens at shorter ⊢
  split
  · rfl
  · rename_i more
    rw [if_neg more] at shorter
    split
    · rename_i fits
      exact absurd (if_pos fits) shorter
    · unfold rstrip
      cases last : (List.rdropWhile isSpace (snapBack (text.take (longestFit text budget)))).getLast? with
      | none => rfl
      | some letter =>
          have some : List.rdropWhile isSpace (snapBack (text.take (longestFit text budget))) ≠ [] := by
            intro empty
            simp [empty] at last
          have dark := List.rdropWhile_last_not isSpace (snapBack (text.take (longestFit text budget))) some
          rw [List.getLast?_eq_some_getLast some] at last
          obtain rfl := Option.some.inj last
          simpa using dark

structure Placed where
  block : DocText
  part : DocText
  start : Nat
  deriving DecidableEq

def place (offset : Nat) : List (DocText × DocText) → List Placed
  | [] => []
  | (block, part) :: rest =>
      { block, part, start := offset } :: place (if part = [] then offset else offset + part.length + 2) rest

def Placed.shown (size : Nat) (placed : Placed) : DocText := placed.part.take (size - placed.start)

def joinParts (parts : List DocText) : DocText := joinBlocks (parts.filter (· ≠ []))

variable {pieces : List (DocText × DocText)} {placed : Placed} {offset : Nat}

theorem place_parts (offset : Nat) (pieces : List (DocText × DocText)) :
    (place offset pieces).map (fun placed => (placed.block, placed.part)) = pieces := by
  induction pieces generalizing offset with
  | nil => rfl
  | cons piece rest ih =>
      rw [place, List.map_cons, ih]

theorem start_le (member : placed ∈ place offset pieces) : offset ≤ placed.start := by
  induction pieces generalizing offset with
  | nil => simp [place] at member
  | cons piece rest ih =>
      rcases List.mem_cons.mp member with rfl | later
      · exact le_refl _
      · have next := ih later
        split at next
        · exact next
        · omega

theorem joinParts_nil : joinParts [] = [] := rfl

theorem joinParts_empty (parts : List DocText) : joinParts ([] :: parts) = joinParts parts := by
  rw [joinParts, List.filter_cons_of_neg (by simp), joinParts]

theorem joinParts_cons {part : DocText} (some : part ≠ []) (parts : List DocText) : joinParts (part :: parts) =
    part ++ if joinParts parts = [] then [] else ['\n', '\n'] ++ joinParts parts := by
  unfold joinParts
  rw [List.filter_cons_of_pos (by simpa using some)]
  cases kept : parts.filter (· ≠ []) with
  | nil => simp [joinBlocks]
  | cons next more =>
      have nonempty : next ≠ [] := by
        have member : next ∈ parts.filter (· ≠ []) := kept ▸ List.mem_cons_self
        simpa using (List.mem_filter.mp member).2
      have whole : joinBlocks (next :: more) ≠ [] := by
        cases more with
        | nil => simpa [joinBlocks] using nonempty
        | cons _ _ => simp [joinBlocks, List.intercalate_cons_cons, nonempty]
      rw [if_neg whole, joinBlocks, List.intercalate_cons_cons, List.append_assoc]
      rfl

theorem joinParts_last {part : DocText} {parts : List DocText} (none : joinParts parts = []) :
    joinParts (part :: parts) = part := by
  by_cases empty : part = []
  · rw [empty, joinParts_empty, none]
  · rw [joinParts_cons empty, if_pos none, List.append_nil]

theorem shown_behind (member : placed ∈ place offset pieces) (short : size ≤ offset) : placed.shown size = [] := by
  have start := start_le member
  rw [Placed.shown, Nat.sub_eq_zero_of_le (short.trans start), List.take_zero]

theorem joinParts_shown_behind (short : size ≤ offset) :
    joinParts ((place offset pieces).map (Placed.shown size)) = [] := by
  have none : ((place offset pieces).map (Placed.shown size)).filter (· ≠ []) = [] := by
    refine List.filter_eq_nil_iff.mpr fun part member => ?_
    obtain ⟨placed, within, rfl⟩ := List.mem_map.mp member
    simp [shown_behind within short]
  rw [joinParts, none]
  rfl

theorem joinParts_shown (dark : ((joinParts (pieces.map (·.2))).take size).getLast? ≠ some '\n' ∨
      (joinParts (pieces.map (·.2))).length ≤ size) :
    joinParts ((place offset pieces).map (Placed.shown (offset + size))) =
      (joinParts (pieces.map (·.2))).take size := by
  induction pieces generalizing offset size with
  | nil => simp [place, joinParts_nil]
  | cons piece rest ih =>
      obtain ⟨block, part⟩ := piece
      rw [List.map_cons] at dark ⊢
      rw [place, List.map_cons]
      by_cases empty : part = []
      · subst empty
        rw [if_pos rfl]
        change joinParts (([] : DocText).take _ :: _) = _
        rw [List.take_nil, joinParts_empty]
        dsimp only at dark ⊢
        rw [joinParts_empty] at dark ⊢
        exact ih dark
      · rw [if_neg empty]
        dsimp only at dark ⊢
        change joinParts (part.take (offset + size - offset) :: _) = _
        rw [Nat.add_sub_cancel_left]
        generalize behind : joinParts (rest.map (·.2)) = later at ih dark ⊢
        rw [joinParts_cons empty, behind] at dark ⊢
        by_cases short : size ≤ part.length
        · rw [joinParts_last (joinParts_shown_behind (by omega)), List.take_append_of_le_length short]
        · have long : part.length < size := not_le.mp short
          rw [List.take_of_length_le long.le]
          by_cases none : later = []
          · subst none
            rw [if_pos rfl, List.append_nil, List.take_of_length_le long.le]
            refine joinParts_last ?_
            by_cases near : size ≤ part.length + 2
            · exact joinParts_shown_behind (by omega)
            · have next : offset + size = offset + part.length + 2 + (size - (part.length + 2)) := by omega
              rw [next, ih (.inr (Nat.zero_le _)), List.take_nil]
          · rw [if_neg none] at dark ⊢
            have some : 0 < later.length := List.length_pos_iff.mpr none
            have far : part.length + 2 < size := by
              by_contra near
              rcases dark with dark | whole
              · have inside : size = part.length + 1 ∨ size = part.length + 2 := by omega
                rcases inside with rfl | rfl <;> simp [List.take_append] at dark
              · simp only [List.length_append, List.length_cons, List.length_nil] at whole
                omega
            have next : offset + size = offset + part.length + 2 + (size - (part.length + 2)) := by omega
            have cut : (part ++ (['\n', '\n'] ++ later)).take size =
                part ++ (['\n', '\n'] ++ later.take (size - (part.length + 2))) := by
              rw [List.take_append, List.take_of_length_le long.le, List.take_append,
                List.take_of_length_le (by simp; omega)]
              simp [Nat.sub_sub]
            have more : later.take (size - (part.length + 2)) ≠ [] := by
              intro empty
              rcases List.take_eq_nil_iff.mp empty with zero | gone
              · omega
              · exact none gone
            have shown := @ih (size - (part.length + 2)) (offset + part.length + 2) (by
              rcases dark with dark | whole
              · left
                rw [cut, List.getLast?_append_of_ne_nil _ (by simp), List.getLast?_append_of_ne_nil _ more] at dark
                exact dark
              · right
                simp only [List.length_append, List.length_cons, List.length_nil] at whole
                omega)
            rw [cut, next, joinParts_cons empty, shown, if_neg more]

theorem joinLines_ne_nil {first : DocText} (some : first ≠ []) (rest : List DocText) :
    joinLines (first :: rest) ≠ [] := by
  cases rest with
  | nil => simpa [joinLines] using some
  | cons next more => simp [joinLines, List.intercalate_cons_cons, some]

theorem not_isFence_nil : isFence [] = false := by decide

theorem begun_append {current : List DocText} {line : DocText} (begun : ∀ first ∈ current.head?, first ≠ [])
    (some : current = [] → line ≠ []) : ∀ first ∈ (current ++ [line]).head?, first ≠ [] := by
  intro first head
  cases current with
  | nil =>
      obtain rfl : line = first := by simpa using head
      exact some rfl
  | cons opening rest => exact begun first head

theorem joinLines_begun {current : List DocText} (begun : ∀ first ∈ current.head?, first ≠ []) (some : current ≠ []) :
    joinLines current ≠ [] := by
  obtain ⟨first, rest, rfl⟩ := List.exists_cons_of_ne_nil some
  exact joinLines_ne_nil (begun first rfl) rest

theorem blocksFrom_ne_nil {inFence : Bool} {current lines : List DocText} {block : DocText}
    (begun : ∀ first ∈ current.head?, first ≠ []) (fenced : inFence = true → current ≠ [])
    (member : block ∈ blocksFrom inFence current lines) : block ≠ [] := by
  induction lines generalizing inFence current with
  | nil =>
      rw [blocksFrom] at member
      split at member
      · simp at member
      · rename_i some
        obtain rfl := List.mem_singleton.mp member
        exact joinLines_begun begun some
  | cons line rest ih =>
      rw [blocksFrom] at member
      split at member
      · rename_i fence
        have some : line ≠ [] := by
          rintro rfl
          rw [not_isFence_nil] at fence
          contradiction
        exact ih (begun_append begun fun _ => some) (fun _ => by simp) member
      · split at member
        · rename_i inside
          exact ih (begun_append begun fun empty => absurd empty (fenced inside)) (fun _ => by simp) member
        · split at member
          · have fresh : ∀ first ∈ ([] : List DocText).head?, first ≠ [] := fun first head => by simp at head
            split at member
            · exact ih fresh (fun inside => by simp at inside) member
            · rename_i some
              rcases List.mem_cons.mp member with rfl | later
              · exact joinLines_begun begun some
              · exact ih fresh (fun inside => by simp at inside) later
          · rename_i dark
            have some : line ≠ [] := by
              rintro rfl
              exact dark rfl
            exact ih (begun_append begun fun _ => some) (fun inside => by simp at inside) member

theorem splitBlocks_ne_nil {block : DocText} (member : block ∈ splitBlocks text) : block ≠ [] :=
  blocksFrom_ne_nil (fun first head => by simp at head) (fun inside => by simp at inside) member

def normativeCost (texts : Texts) (blocks : List DocText) : Nat :=
  ((blocks.filter (isNormativeBlock texts)).map estimate).sum

def chosenParts (texts : Texts) : Nat → List DocText → List DocText
  | _, [] => []
  | left, block :: rest =>
      if isNormativeBlock texts block then block :: chosenParts texts left rest
      else if estimate block ≤ left then block :: chosenParts texts (left - estimate block) rest
      else [] :: chosenParts texts left rest

def clampParts (texts : Texts) (blocks : List DocText) (budget : Nat) : List DocText :=
  (selection texts blocks budget).map fun part => part.getD []

theorem reserve_fits (fits : normativeCost texts blocks ≤ budget) : reserve texts budget blocks =
    (blocks.map fun block => if isNormativeBlock texts block then some block else none,
      budget - normativeCost texts blocks) := by
  induction blocks generalizing budget with
  | nil => rfl
  | cons block rest ih =>
      rw [reserve]
      by_cases normative : isNormativeBlock texts block = true
      · have cost : normativeCost texts (block :: rest) = estimate block + normativeCost texts rest := by
          simp [normativeCost, normative]
        rw [cost] at fits ⊢
        rw [if_pos normative, if_pos (by omega), ih (by omega)]
        simp [normative, Nat.sub_sub]
      · have cost : normativeCost texts (block :: rest) = normativeCost texts rest := by
          simp [normativeCost, normative]
        rw [cost] at fits ⊢
        rw [if_neg normative, ih fits]
        simp [normative]

theorem fill_normative (left : Nat) (blocks : List DocText) :
    (fill texts left
        (blocks.zip (blocks.map fun block => if isNormativeBlock texts block then some block else none))).map
      (fun part => part.getD []) = chosenParts texts left blocks := by
  induction blocks generalizing left with
  | nil => rfl
  | cons block rest ih =>
      rw [List.map_cons, List.zip_cons_cons, chosenParts]
      by_cases normative : isNormativeBlock texts block = true
      · rw [if_pos normative, if_pos normative, fill, List.map_cons, ih]
        rfl
      · rw [if_neg normative, if_neg normative, fill, if_neg normative]
        split
        · rw [List.map_cons, ih]
          rfl
        · rw [List.map_cons, ih]
          rfl

theorem clampParts_fits (fits : normativeCost texts blocks ≤ budget) :
    clampParts texts blocks budget = chosenParts texts (budget - normativeCost texts blocks) blocks := by
  rw [clampParts, selection, reserve_fits fits]
  exact fill_normative ..

theorem reserve_zero (blocks : List DocText) : (reserve texts 0 blocks).2 = 0 := by
  induction blocks with
  | nil => rfl
  | cons block rest ih =>
      rw [reserve]
      split
      · split
        · rw [Nat.zero_sub]
          exact ih
        · exact ih
      · exact ih

theorem reserve_short (short : budget < normativeCost texts blocks) : (reserve texts budget blocks).2 = 0 := by
  induction blocks generalizing budget with
  | nil => simp [normativeCost] at short
  | cons block rest ih =>
      rw [reserve]
      by_cases normative : isNormativeBlock texts block = true
      · have cost : normativeCost texts (block :: rest) = estimate block + normativeCost texts rest := by
          simp [normativeCost, normative]
        rw [if_pos normative]
        split
        · exact ih (by omega)
        · split
          · exact reserve_zero rest
          · rename_i none
            obtain rfl : budget = 0 := by omega
            exact reserve_zero rest
      · have cost : normativeCost texts (block :: rest) = normativeCost texts rest := by
          simp [normativeCost, normative]
        rw [if_neg normative]
        exact ih (by omega)

theorem reserve_forall₂ (budget : Nat) (blocks : List DocText) :
    List.Forall₂ (fun block reserved => ∀ part ∈ reserved, part <+: block ∧ isNormativeBlock texts block = true) blocks
      (reserve texts budget blocks).1 := by
  induction blocks generalizing budget with
  | nil => exact .nil
  | cons block rest ih =>
      rw [reserve]
      split
      · rename_i normative
        split
        · exact .cons (fun part kept => by simp at kept; exact ⟨kept ▸ List.prefix_refl _, normative⟩) (ih _)
        · split
          · refine .cons (fun part kept => ⟨?_, normative⟩) (ih _)
            obtain rfl := Option.some.inj kept
            exact truncateToTokens_front ..
          · exact .cons (fun part kept => by simp at kept) (ih _)
      · exact .cons (fun part kept => by simp at kept) (ih _)

theorem fill_forall₂ {holds : DocText → DocText → Prop} {left : Nat} {blocks : List DocText}
    {reserved : List (Option DocText)}
    (kept : List.Forall₂ (fun block reserved => ∀ part ∈ reserved, holds block part) blocks reserved)
    (none : ∀ block, holds block [])
    (whole : ∀ block ∈ blocks, isNormativeBlock texts block = false → estimate block ≤ left → holds block block) :
    List.Forall₂ holds blocks ((fill texts left (blocks.zip reserved)).map fun part => part.getD []) := by
  induction kept generalizing left with
  | nil => exact .nil
  | @cons block part blocks reserved here later ih =>
      have others : ∀ block ∈ blocks, isNormativeBlock texts block = false → estimate block ≤ left →
          holds block block :=
        fun other member => whole other (List.mem_cons_of_mem _ member)
      rw [List.zip_cons_cons]
      cases part with
      | some part =>
          rw [fill]
          exact .cons (here part rfl) (ih others)
      | none =>
          rw [fill]
          split
          · exact .cons (none block) (ih others)
          · rename_i narrative
            split
            · rename_i fits
              refine .cons (whole block List.mem_cons_self (by simpa using narrative) fits) (ih ?_)
              intro other member plain small
              exact others other member plain (small.trans (Nat.sub_le ..))
            · exact .cons (none block) (ih others)

theorem clampParts_begin (blocks : List DocText) (budget : Nat) :
    List.Forall₂ (fun block part => part <+: block) blocks (clampParts texts blocks budget) :=
  fill_forall₂ ((reserve_forall₂ budget blocks).imp fun _ _ kept part member => (kept part member).1)
    (fun _ => List.nil_prefix) fun _ _ _ _ => List.prefix_refl _

theorem clampParts_short (short : budget < normativeCost texts blocks) (some : ∀ block ∈ blocks, block ≠ []) :
    List.Forall₂ (fun block part => isNormativeBlock texts block = false → part = []) blocks
      (clampParts texts blocks budget) := by
  refine fill_forall₂ ((reserve_forall₂ budget blocks).imp fun block _ kept part member plain => ?_) (fun _ _ => rfl) ?_
  · rw [(kept part member).2] at plain
    contradiction
  · intro block member _ fits _
    rw [reserve_short short] at fits
    exact absurd fits (not_le.mpr (estimate_pos (some block member)))

def clampPlaces (texts : Texts) (text : DocText) (budget : Nat) : List Placed :=
  place 0 ((splitBlocks text).zip (clampParts texts (splitBlocks text) budget))

structure ClampSound (texts : Texts) (text : DocText) (budget : Nat) : Prop where
  bounded : estimate (rung3Clamp texts text budget) ≤ budget
  blocks : (clampPlaces texts text budget).map Placed.block = splitBlocks text
  fronts : ∀ placed ∈ clampPlaces texts text budget, placed.shown (rung3Clamp texts text budget).length <+: placed.block
  ordered : rung3Clamp texts text budget =
    joinParts ((clampPlaces texts text budget).map (Placed.shown (rung3Clamp texts text budget).length))
  normative_first : ∀ narrative ∈ clampPlaces texts text budget, isNormativeBlock texts narrative.block = false →
    narrative.shown (rung3Clamp texts text budget).length ≠ [] →
    ∀ normative ∈ clampPlaces texts text budget, isNormativeBlock texts normative.block = true →
      normative.shown (rung3Clamp texts text budget).length = normative.block

def CutsWell (texts : Texts) (blocks : List DocText) (budget : Nat) : Prop :=
  let parts := chosenParts texts (budget - normativeCost texts blocks) blocks
  let cut := (cutText (4 * budget) (joinParts parts)).length
  ∀ narrative ∈ place 0 (blocks.zip parts), isNormativeBlock texts narrative.block = false → narrative.part ≠ [] →
    narrative.start < cut →
    ∀ normative ∈ place 0 (blocks.zip parts), isNormativeBlock texts normative.block = true →
      normative.start + normative.block.length ≤ cut

theorem mem_place {pieces : List (DocText × DocText)} {offset : Nat} {placed : Placed}
    (member : placed ∈ place offset pieces) : (placed.block, placed.part) ∈ pieces := by
  rw [← place_parts offset pieces]
  exact List.mem_map_of_mem member

theorem place_blocks {parts : List DocText} (same : blocks.length = parts.length) (offset : Nat) :
    (place offset (blocks.zip parts)).map Placed.block = blocks := by
  have pairs := congrArg (List.map Prod.fst) (place_parts offset (blocks.zip parts))
  rw [List.map_map, List.map_fst_zip same.le] at pairs
  exact pairs

theorem chosenParts_normative {left : Nat} {block part : DocText}
    (member : (block, part) ∈ blocks.zip (chosenParts texts left blocks))
    (normative : isNormativeBlock texts block = true) : part = block := by
  induction blocks generalizing left with
  | nil => simp at member
  | cons first rest ih =>
      rw [chosenParts] at member
      split at member
      · rcases List.mem_cons.mp member with same | later
        · obtain ⟨rfl, rfl⟩ := Prod.mk.inj same
          rfl
        · exact ih later
      · rename_i narrative
        split at member
        · rcases List.mem_cons.mp member with same | later
          · obtain ⟨rfl, rfl⟩ := Prod.mk.inj same
            rfl
          · exact ih later
        · rcases List.mem_cons.mp member with same | later
          · obtain ⟨rfl, rfl⟩ := Prod.mk.inj same
            exact absurd normative narrative
          · exact ih later

theorem clampParts_length (blocks : List DocText) (budget : Nat) :
    blocks.length = (clampParts texts blocks budget).length :=
  (clampParts_begin blocks budget).length_eq

theorem rung3Clamp_eq (texts : Texts) (text : DocText) (budget : Nat) : rung3Clamp texts text budget =
    truncateToTokens (joinParts (clampParts texts (splitBlocks text) budget)) budget := rfl

theorem clamp_ordered (texts : Texts) (text : DocText) (budget : Nat) : rung3Clamp texts text budget =
    joinParts ((clampPlaces texts text budget).map (Placed.shown (rung3Clamp texts text budget).length)) := by
  have same : (splitBlocks text).length = (clampParts texts (splitBlocks text) budget).length :=
    clampParts_length _ _
  have front := List.prefix_iff_eq_take.mp
    (truncateToTokens_front (joinParts (clampParts texts (splitBlocks text) budget)) budget)
  have parts : ((splitBlocks text).zip (clampParts texts (splitBlocks text) budget)).map (·.2) =
      clampParts texts (splitBlocks text) budget := List.map_snd_zip same.ge
  have shown := @joinParts_shown (rung3Clamp texts text budget).length
    ((splitBlocks text).zip (clampParts texts (splitBlocks text) budget)) 0 (by
      rw [parts]
      by_cases whole : rung3Clamp texts text budget = joinParts (clampParts texts (splitBlocks text) budget)
      · right
        rw [whole]
      · left
        rw [rung3Clamp_eq, ← front]
        intro last
        have dark := getLast_truncate whole
        rw [← rung3Clamp_eq] at last
        change (rung3Clamp texts text budget).getLast?.all _ = true at dark
        rw [last] at dark
        exact absurd dark (by decide))
  rw [Nat.zero_add, parts] at shown
  rw [clampPlaces, shown]
  exact front

theorem clampPlaces_begin {placed : Placed} (member : placed ∈ clampPlaces texts text budget) :
    placed.part <+: placed.block :=
  (List.forall₂_iff_zip.mp (clampParts_begin (splitBlocks text) budget)).2 (mem_place member)

theorem Placed.shown_ne_nil {placed : Placed} : placed.shown size ≠ [] ↔ placed.part ≠ [] ∧ placed.start < size := by
  rw [Placed.shown, Ne, List.take_eq_nil_iff, not_or, Nat.sub_eq_zero_iff_le, not_le, and_comm]

theorem Placed.shown_whole {placed : Placed} (some : placed.block ≠ []) (whole : placed.part = placed.block) :
    placed.shown size = placed.block ↔ placed.start + placed.block.length ≤ size := by
  have long : 0 < placed.block.length := List.length_pos_iff.mpr some
  rw [Placed.shown, whole, List.take_eq_self_iff]
  omega

theorem cutsWell_iff (positive : 1 ≤ budget) (fits : normativeCost texts (splitBlocks text) ≤ budget) :
    CutsWell texts (splitBlocks text) budget ↔
      ∀ narrative ∈ clampPlaces texts text budget, isNormativeBlock texts narrative.block = false →
        narrative.part ≠ [] → narrative.start < (rung3Clamp texts text budget).length →
        ∀ normative ∈ clampPlaces texts text budget, isNormativeBlock texts normative.block = true →
          normative.start + normative.block.length ≤ (rung3Clamp texts text budget).length := by
  rw [CutsWell, ← clampParts_fits fits, ← truncateToTokens_eq positive]
  rfl

end Compressor

end Thought2Build.Pipeline
