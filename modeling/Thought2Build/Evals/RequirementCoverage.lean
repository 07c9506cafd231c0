import Thought2Build.Evals.RequirementCoverageCore
import Thought2Build.Pipeline.HarnessFindings

/-!
When the coverage percentage and the list of gaps tell the same. Both are made of one set of covered requirements,
but the percentage is rounded: from 200 requirements on a single one can be too few to be seen in it.
-/

namespace Thought2Build.Evals

open Patterns Pattern Pipeline
open Integrations (Texts sampleTexts)

variable {texts : Texts} {cases : LetterCases} {specContent harnessContent : DocText} {part total : Nat}

def Seen (part total : Nat) : Prop := part = 0 ∨ total < 200 * part

instance (part total : Nat) : Decidable (Seen part total) := inferInstanceAs (Decidable (_ ∨ _))

theorem roundQuotient_eq_zero (positive : 0 < total) : roundQuotient (100 * part) total = 0 ↔ 200 * part ≤ total := by
  have division := Nat.div_add_mod (100 * part) total
  have small := Nat.mod_lt (100 * part) positive
  unfold roundQuotient
  constructor
  · intro none
    have quotient : 100 * part / total = 0 := by
      dsimp only at none
      split_ifs at none <;> omega
    rw [quotient] at none division
    dsimp only at none
    split_ifs at none <;> omega
  · intro few
    have quotient : 100 * part / total = 0 := Nat.div_eq_of_lt (by omega)
    rw [quotient] at division ⊢
    dsimp only
    split_ifs <;> omega

theorem roundQuotient_eq_hundred (positive : 0 < total) (most : part ≤ total) :
    roundQuotient (100 * part) total = 100 ↔ 200 * (total - part) ≤ total := by
  obtain ⟨rest, rfl⟩ := Nat.exists_eq_add_of_le most
  rw [Nat.add_sub_cancel_left]
  have division := Nat.div_add_mod (100 * part) (part + rest)
  have small := Nat.mod_lt (100 * part) positive
  have quotient : 100 * part / (part + rest) ≤ 100 := Nat.div_le_of_le_mul (by rw [Nat.mul_comm]; omega)
  unfold roundQuotient
  generalize 100 * part % (part + rest) = remainder at division small ⊢
  rcases Nat.lt_or_ge (100 * part / (part + rest)) 99 with less | near
  · have under : (part + rest) * (100 * part / (part + rest)) ≤ (part + rest) * 98 :=
      Nat.mul_le_mul_left _ (Nat.le_of_lt_succ less)
    refine iff_of_false (fun rounds => ?_) (by clear less quotient; omega)
    clear * - less rounds
    dsimp only at rounds
    split_ifs at rounds <;> omega
  · obtain last | all : 100 * part / (part + rest) = 99 ∨ 100 * part / (part + rest) = 100 := by
      clear * - near quotient
      omega
    · rw [last] at division ⊢
      clear * - division
      dsimp only
      split_ifs with _ _ even
      · omega
      · omega
      · exact even.elim
      · omega
    · rw [all] at division ⊢
      clear * - division small
      dsimp only
      split_ifs <;> omega

theorem roundQuotient_le (positive : 0 < total) (most : part ≤ total) : roundQuotient (100 * part) total ≤ 100 := by
  have division := Nat.div_add_mod (100 * part) total
  have quotient : 100 * part / total ≤ 100 := Nat.div_le_of_le_mul (by rw [Nat.mul_comm total]; omega)
  unfold roundQuotient
  rcases Nat.lt_or_ge (100 * part / total) 100 with less | full
  · clear * - less
    dsimp only
    split_ifs <;> omega
  · rw [quotient.antisymm full] at division ⊢
    have nothing : 100 * part % total = 0 := by
      clear * - division most
      omega
    dsimp only
    rw [if_pos (by rwa [nothing])]

theorem upper_upstream (standard : cases.Standard texts) (source : DocText) :
    (upstreamRequirementIds texts source).image cases.upper = upstreamRequirementIds texts source := by
  have same : ∀ id ∈ upstreamRequirementIds texts source, cases.upper id = id := by
    intro id member
    obtain ⟨found, within, rfl⟩ := List.mem_map.mp (List.mem_toFinset.mp member)
    refine standard _ (readsOnly_findTexts ?_ within)
    have kinds : requirementKind.readsOnly fun letter => letter ∈ "FRNSEC-".toList ∨ texts.isDigit letter = true := by
      refine ⟨literal_readsOnly ?_, literal_readsOnly ?_, literal_readsOnly ?_⟩ <;> simp
    have dash : ∀ letter, decide (letter = '-') = true → letter ∈ "FRNSEC-".toList ∨ texts.isDigit letter = true := by
      intro letter same
      obtain rfl : letter = '-' := by simpa using same
      exact .inl (by decide)
    have digits : texts.threeDigits.readsOnly fun letter => letter ∈ "FRNSEC-".toList ∨ texts.isDigit letter = true :=
      ⟨fun _ => .inr, fun _ => .inr, fun _ => .inr, trivial⟩
    exact ⟨trivial, kinds, dash, digits, trivial, trivial⟩
  ext id
  rw [Finset.mem_image]
  constructor
  · rintro ⟨other, member, rfl⟩
    rwa [same other member]
  · exact fun member => ⟨id, member, same id member⟩

section

variable (texts cases specContent harnessContent)

def coveredUpstream : Finset DocText :=
  upstreamRequirementIds texts specContent ∩ coveredRequirementIds texts cases harnessContent

def missedUpstream : Finset DocText :=
  upstreamRequirementIds texts specContent \ coveredRequirementIds texts cases harnessContent

structure CoverageAgrees : Prop where
  absent : deterministicCoveragePercent texts cases harnessContent specContent = none ↔
    upstreamRequirementIds texts specContent = ∅
  gaps : upstreamRequirementIds texts specContent ≠ ∅ →
    ((regenerateStageForGaps texts cases harnessContent specContent).getD []).Nodup ∧
      ∀ id, id ∈ (regenerateStageForGaps texts cases harnessContent specContent).getD [] ↔
        id ∈ upstreamRequirementIds texts specContent ∧ id ∉ coveredRequirementIds texts cases harnessContent
  total : upstreamRequirementIds texts specContent ≠ ∅ →
    (harnessCoverageRatio texts cases harnessContent (upstreamRequirementIds texts specContent)).1 +
        (extractDeferredReqs texts cases harnessContent specContent).length =
      (harnessCoverageRatio texts cases harnessContent (upstreamRequirementIds texts specContent)).2
  full : upstreamRequirementIds texts specContent ≠ ∅ →
    (deterministicCoveragePercent texts cases harnessContent specContent = .some 100 ↔
      extractDeferredReqs texts cases harnessContent specContent = [])
  nothing : upstreamRequirementIds texts specContent ≠ ∅ →
    (deterministicCoveragePercent texts cases harnessContent specContent = .some 0 ↔
      ∀ id ∈ upstreamRequirementIds texts specContent, id ∉ coveredRequirementIds texts cases harnessContent)

end

theorem parts_card : (coveredUpstream texts cases specContent harnessContent).card +
    (missedUpstream texts cases specContent harnessContent).card = (upstreamRequirementIds texts specContent).card :=
  Finset.card_inter_add_card_sdiff _ _

theorem coverageRatio_eq (standard : cases.Standard texts) :
    harnessCoverageRatio texts cases harnessContent (upstreamRequirementIds texts specContent) =
      ((coveredUpstream texts cases specContent harnessContent).card,
        (upstreamRequirementIds texts specContent).card) := by
  rw [harnessCoverageRatio, upper_upstream standard, coveredUpstream]
  split
  · rename_i none
    rw [none, Finset.empty_inter, Finset.card_empty]
  · rfl

theorem coverageRatio_le {ids : Finset DocText} : (harnessCoverageRatio texts cases harnessContent ids).1 ≤
    (harnessCoverageRatio texts cases harnessContent ids).2 := by
  unfold harnessCoverageRatio
  dsimp only
  split
  · exact le_rfl
  · change (ids.image cases.upper ∩ coveredRequirementIds texts cases harnessContent).card ≤
      (ids.image cases.upper).card
    exact Finset.card_le_card Finset.inter_subset_left

theorem deferredReqs_eq (standard : cases.Standard texts) (named : upstreamRequirementIds texts specContent ≠ ∅) :
    extractDeferredReqs texts cases harnessContent specContent =
      sorted (missedUpstream texts cases specContent harnessContent) := by
  rw [extractDeferredReqs, uncoveredRequirements, if_pos named, upper_upstream standard, missedUpstream]

theorem coveragePercent_eq (standard : cases.Standard texts) :
    deterministicCoveragePercent texts cases harnessContent specContent =
      if upstreamRequirementIds texts specContent = ∅ then none
      else some (roundQuotient (100 * (coveredUpstream texts cases specContent harnessContent).card)
        (upstreamRequirementIds texts specContent).card) := by
  rw [deterministicCoveragePercent, coverageRatio_eq standard]
  dsimp only
  simp only [Finset.card_eq_zero]

theorem regenerateStageForGaps_eq : (regenerateStageForGaps texts cases harnessContent specContent).getD [] =
    extractDeferredReqs texts cases harnessContent specContent := by
  rw [regenerateStageForGaps]
  split
  · rename_i none
    rw [none, Option.getD_none]
  · rfl

theorem sorted_eq_nil (ids : Finset DocText) : sorted ids = [] ↔ ids.card = 0 := by
  rw [← List.length_eq_zero_iff, sorted, Finset.length_sort]

/-- The percentage and the gaps agree exactly when neither the covered requirements nor the gaps are fewer than what a
percentage shows. -/
theorem coverage_agrees_iff (standard : cases.Standard texts) (specContent harnessContent : DocText) :
    CoverageAgrees texts cases specContent harnessContent ↔
      Seen (coveredUpstream texts cases specContent harnessContent).card
          (upstreamRequirementIds texts specContent).card ∧
        Seen (missedUpstream texts cases specContent harnessContent).card
          (upstreamRequirementIds texts specContent).card := by
  have parts := @parts_card texts cases specContent harnessContent
  have ratio := @coverageRatio_eq texts cases specContent harnessContent standard
  have percent := @coveragePercent_eq texts cases specContent harnessContent standard
  by_cases named : upstreamRequirementIds texts specContent = ∅
  · rw [if_pos named] at percent
    rw [named, Finset.card_empty] at parts
    obtain ⟨covered, missed⟩ := Nat.add_eq_zero_iff.mp parts
    constructor
    · intro _
      exact ⟨.inl covered, .inl missed⟩
    · intro _
      exact ⟨⟨fun _ => named, fun _ => percent⟩, fun some_ => absurd named some_, fun some_ => absurd named some_,
        fun some_ => absurd named some_, fun some_ => absurd named some_⟩
  · rw [if_neg named] at percent
    have positive : 0 < (upstreamRequirementIds texts specContent).card :=
      Finset.card_pos.mpr (Finset.nonempty_iff_ne_empty.mpr named)
    have gaps := @deferredReqs_eq texts cases specContent harnessContent standard named
    have full : deterministicCoveragePercent texts cases harnessContent specContent = .some 100 ↔
        200 * (missedUpstream texts cases specContent harnessContent).card ≤
          (upstreamRequirementIds texts specContent).card := by
      rw [percent, Option.some_inj, roundQuotient_eq_hundred positive (Nat.le.intro parts), ← parts,
        Nat.add_sub_cancel_left]
    have nothing : deterministicCoveragePercent texts cases harnessContent specContent = .some 0 ↔
        200 * (coveredUpstream texts cases specContent harnessContent).card ≤
          (upstreamRequirementIds texts specContent).card := by
      rw [percent, Option.some_inj, roundQuotient_eq_zero positive]
    have uncovered : (∀ id ∈ upstreamRequirementIds texts specContent,
        id ∉ coveredRequirementIds texts cases harnessContent) ↔
        (coveredUpstream texts cases specContent harnessContent).card = 0 := by
      rw [Finset.card_eq_zero, coveredUpstream, ← Finset.disjoint_iff_inter_eq_empty, Finset.disjoint_left]
    constructor
    · intro agrees
      have whole := full.symm.trans (agrees.full named)
      rw [gaps, sorted_eq_nil] at whole
      have none := (nothing.symm.trans (agrees.nothing named)).trans uncovered
      unfold Seen
      omega
    · rintro ⟨some_, missed⟩
      unfold Seen at some_ missed
      refine ⟨?_, fun _ => ?_, fun _ => ?_, fun _ => ?_, fun _ => ?_⟩
      · rw [percent]
        exact ⟨fun absent => (nomatch absent), fun absent => absurd absent named⟩
      · rw [regenerateStageForGaps_eq, gaps]
        exact ⟨Finset.sort_nodup _ _, fun id => (Finset.mem_sort _).trans Finset.mem_sdiff⟩
      · rw [ratio, gaps, sorted, Finset.length_sort]
        exact parts
      · rw [full, gaps, sorted_eq_nil]
        omega
      · rw [nothing, uncovered]
        omega

def sampleCases : LetterCases where
  lower text := text.map Char.toLower
  upper text := text.map Char.toUpper

theorem sampleCases_standard : sampleCases.Standard sampleTexts := by
  intro text plain
  refine (List.map_congr_left fun letter member => ?_).trans (List.map_id text)
  rcases plain letter member with capital | digit
  · have upper : "FRNSEC-".toList.all (fun letter => letter.toUpper = letter) = true := by decide
    exact of_decide_eq_true (List.all_eq_true.mp upper letter capital)
  · have small : letter ≤ '9' := by
      by_contra large
      simp [sampleTexts, Texts.isDigit, large] at digit
    exact dif_neg fun lower => absurd (lower.1.trans small) (by decide)

theorem coverage_agrees_iff_sample : sampleCases.Standard sampleTexts ∧
    (CoverageAgrees sampleTexts sampleCases "FR-001".toList [] ↔
      Seen (coveredUpstream sampleTexts sampleCases "FR-001".toList []).card
          (upstreamRequirementIds sampleTexts "FR-001".toList).card ∧
        Seen (missedUpstream sampleTexts sampleCases "FR-001".toList []).card
          (upstreamRequirementIds sampleTexts "FR-001".toList).card) :=
  ⟨sampleCases_standard, coverage_agrees_iff sampleCases_standard "FR-001".toList []⟩

def numbered (number : Nat) : DocText :=
  "FR-".toList ++ [number / 100, number / 10 % 10, number % 10].map fun digit => Char.ofNat ('0'.toNat + digit)

def requirementLines : List DocText := (List.range 200).map numbered

def manyRequirements : DocText := linesBehind requirementLines

def oneTest : DocText := DocText.ofParts [
  "## Requirement-to-Test Matrix\n| FR-000 | `tests/a_test.py` |\n\n## Files\n",
  "### File: tests/a_test.py\n```\ndef test_a():\n```"]

theorem oneTest_covers : coveredRequirementIds sampleTexts sampleCases oneTest = {"FR-000".toList} := by
  have letters : oneTest = List.flatten _ := DocText.ofParts_letters [_, _]
  rw [letters]
  decide +kernel

theorem requirementLines_found : requirementLines.flatMap (findAll (requirementId sampleTexts)) = requirementLines := by
  have found : ∀ number ∈ List.range 200, findAll (requirementId sampleTexts) (numbered number) = [numbered number] := by
    decide +kernel
  rw [requirementLines, List.flatMap_map]
  exact (List.flatMap_congr found).trans List.map_eq_flatMap.symm

theorem manyRequirements_named : upstreamRequirementIds sampleTexts manyRequirements = requirementLines.toFinset := by
  have cut := @requirementId_cut sampleTexts Integrations.sampleTexts_standard '\n' (by decide)
  have empty : findTexts (requirementId sampleTexts) [] = [] := by decide
  have lines := findTexts_linesBehind cut requirementLines []
  rw [List.nil_append, List.flatMap_cons, empty, List.nil_append] at lines
  rw [upstreamRequirementIds, manyRequirements, findAll, lines, List.map_flatMap]
  exact congrArg List.toFinset requirementLines_found

theorem manyRequirements_card : (upstreamRequirementIds sampleTexts manyRequirements).card = 200 := by
  have digits : ∀ number ∈ List.range 200, sampleTexts.int ((numbered number).drop 3) = number := by decide +kernel
  have distinct : requirementLines.Nodup := by
    refine List.Nodup.map_on (fun number here other there same => ?_) List.nodup_range
    rw [← digits number here, ← digits other there, same]
  rw [manyRequirements_named, List.toFinset_card_of_nodup distinct, requirementLines, List.length_map,
    List.length_range]

theorem first_named : "FR-000".toList ∈ upstreamRequirementIds sampleTexts manyRequirements := by
  rw [manyRequirements_named, List.mem_toFinset]
  exact List.mem_map.mpr ⟨0, by decide, by decide⟩

theorem one_of_many :
    deterministicCoveragePercent sampleTexts sampleCases oneTest manyRequirements = .some 0 ∧
      ("FR-000".toList ∈ upstreamRequirementIds sampleTexts manyRequirements ∧
        "FR-000".toList ∈ coveredRequirementIds sampleTexts sampleCases oneTest) ∧
      ¬CoverageAgrees sampleTexts sampleCases manyRequirements oneTest := by
  have covered : "FR-000".toList ∈ coveredRequirementIds sampleTexts sampleCases oneTest := by
    rw [oneTest_covers]
    exact Finset.mem_singleton_self _
  have part : coveredUpstream sampleTexts sampleCases manyRequirements oneTest = {"FR-000".toList} := by
    rw [coveredUpstream, oneTest_covers, Finset.inter_singleton_of_mem first_named]
  have named : upstreamRequirementIds sampleTexts manyRequirements ≠ ∅ := Finset.ne_empty_of_mem first_named
  have percent : deterministicCoveragePercent sampleTexts sampleCases oneTest manyRequirements = .some 0 := by
    rw [coveragePercent_eq sampleCases_standard, if_neg named, part, manyRequirements_card]
    rfl
  exact ⟨percent, ⟨first_named, covered⟩, fun agrees => (agrees.nothing named).mp percent _ first_named covered⟩

end Thought2Build.Evals
