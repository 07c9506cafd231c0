import Thought2Build.Integrations.TaskReaders
import Thought2Build.Pipeline.HarnessFindings
import Thought2Build.Pipeline.UpstreamSectionsCore

/-! The kept sections of a long artifact go into a prompt whole, at the price of two characters for each. -/

namespace Thought2Build.Pipeline

open Patterns Pattern
open Integrations (Texts WorkspaceMode sampleTexts sampleTexts_standard)

variable {texts : Texts} {summarize : StageType → DocText → DocText} {stageType : StageType} {content result : DocText}
  {mode : WorkspaceMode} {keep : List String} {parts : List H2Part} {injection last : Injection}
  {error : ContextBudgetError}

def keptParts (stageType : StageType) (content : DocText) (mode : WorkspaceMode) : List H2Part :=
  (splitByH2 content).filter (H2Part.critical (keepSections stageType mode))

def keptCost (parts : List H2Part) : Nat := (parts.map fun part => part.full.length + 2).sum

def Carries : List DocText → DocText → Prop
  | [], _ => True
  | part :: rest, text => ∃ front back, text = front ++ part ++ back ∧ Carries rest back

structure InjectionSound (texts : Texts) (summarize : StageType → DocText → DocText) (stageType : StageType)
    (content : DocText) (mode : WorkspaceMode) : Prop where
  bounded : ∀ result, sectionAwareInjection summarize stageType content mode = .ok result →
    result.length ≤ maxUpstreamChars
  bodies : ∀ result, sectionAwareInjection summarize stageType content mode = .ok result →
    Carries ((keptParts stageType content mode).map H2Part.body) result
  requirements : ∀ result, sectionAwareInjection summarize stageType content mode = .ok result →
    ∀ part ∈ keptParts stageType content mode,
      findAll (summaryRequirementId texts) part.full ⊆ findAll (summaryRequirementId texts) result
  refused : ∀ error, sectionAwareInjection summarize stageType content mode = .error error →
    maxUpstreamChars < ("\n\n".toList.intercalate ((keptParts stageType content mode).map H2Part.full)).length

section

attribute [local simp] keptCost

end

theorem keptCost_cons (part : H2Part) : keptCost (part :: parts) = part.full.length + 2 + keptCost parts := by
  simp [keptCost]

theorem take_ok (taken : parts.foldlM (Injection.take stageType keep) injection = .ok last) :
    last.preserved = injection.preserved ++ (parts.filter (H2Part.critical keep)).map H2Part.full ∧
      last.budgetRemaining = injection.budgetRemaining - keptCost (parts.filter (H2Part.critical keep)) ∧
      (-2 ≤ injection.budgetRemaining → -2 ≤ last.budgetRemaining) := by
  induction parts generalizing injection with
  | nil =>
      obtain rfl : injection = last := Except.ok.inj taken
      simp [keptCost]
  | cons part rest ih =>
      rw [List.foldlM_cons] at taken
      unfold Injection.take at taken
      split at taken
      · rename_i critical
        split at taken
        · rename_i fits
          obtain ⟨preserved, budget, bounded⟩ := ih taken
          simp only at preserved budget bounded
          refine ⟨?_, ?_, fun _ => bounded (by omega)⟩
          · rw [preserved, List.filter_cons_of_pos critical]
            simp
          · rw [budget, List.filter_cons_of_pos critical, keptCost_cons]
            push_cast
            omega
        · contradiction
      · rename_i narrative
        obtain ⟨preserved, budget, bounded⟩ := ih taken
        rw [List.filter_cons_of_neg narrative]
        exact ⟨preserved, budget, bounded⟩

theorem take_error (refused : parts.foldlM (Injection.take stageType keep) injection = .error error) :
    injection.budgetRemaining + 2 < keptCost (parts.filter (H2Part.critical keep)) := by
  induction parts generalizing injection with
  | nil => cases refused
  | cons part rest ih =>
      rw [List.foldlM_cons] at refused
      unfold Injection.take at refused
      split at refused
      · rename_i critical
        rw [List.filter_cons_of_pos critical, keptCost_cons]
        split at refused
        · have later := ih refused
          simp only at later
          push_cast
          omega
        · push_cast
          omega
      · rename_i narrative
        have later := ih refused
        rwa [List.filter_cons_of_neg narrative]

theorem length_join (texts : List DocText) (end_ : DocText) :
    ("\n\n".toList.intercalate (texts ++ [end_])).length =
      (texts.map fun text => text.length + 2).sum + end_.length := by
  induction texts with
  | nil => simp
  | cons text rest ih =>
      obtain ⟨next, more, same⟩ : ∃ next more, rest ++ [end_] = next :: more :=
        List.exists_cons_of_ne_nil (by simp)
      rw [List.cons_append, same, List.intercalate_cons_cons, ← same, List.length_append, List.length_append, ih]
      simp
      omega

theorem mem_join {pattern : Pattern} (cut : pattern.cutBy '\n' = true) {texts : List DocText} {text end_ : DocText}
    (member : text ∈ texts) : findAll pattern text ⊆ findAll pattern ("\n\n".toList.intercalate (texts ++ [end_])) := by
  induction texts with
  | nil => simp at member
  | cons first rest ih =>
      obtain ⟨next, more, same⟩ : ∃ next more, rest ++ [end_] = next :: more :=
        List.exists_cons_of_ne_nil (by simp)
      have whole : findAll pattern ("\n\n".toList.intercalate (first :: (rest ++ [end_]))) =
          findAll pattern first ++
            (findAll pattern [] ++ findAll pattern ("\n\n".toList.intercalate (rest ++ [end_]))) := by
        have second : findTexts pattern ('\n' :: "\n\n".toList.intercalate (rest ++ [end_])) = _ :=
          findTexts_cut cut [] ("\n\n".toList.intercalate (rest ++ [end_]))
        rw [same, List.intercalate_cons_cons, ← same, findAll, List.append_assoc]
        change (findTexts pattern (first ++ '\n' :: '\n' :: "\n\n".toList.intercalate (rest ++ [end_]))).map _ = _
        rw [findTexts_cut cut, second, List.map_append, List.map_append]
        rfl
      rw [List.cons_append, whole]
      rcases List.mem_cons.mp member with rfl | later
      · exact List.subset_append_left ..
      · exact fun id found => List.mem_append_right _ (List.mem_append_right _ (ih later found))

theorem Carries.behind {texts : List DocText} {text : DocText} (carries : Carries texts text) (front : DocText) :
    Carries texts (front ++ text) := by
  cases texts with
  | nil => trivial
  | cons first rest =>
      obtain ⟨before, back, rfl, later⟩ := carries
      exact ⟨front ++ before, back, by simp, later⟩

theorem carries_join (parts : List H2Part) (end_ : DocText) :
    Carries (parts.map H2Part.body) ("\n\n".toList.intercalate (parts.map H2Part.full ++ [end_])) := by
  induction parts with
  | nil => trivial
  | cons part rest ih =>
      obtain ⟨next, more, same⟩ : ∃ next more, rest.map H2Part.full ++ [end_] = next :: more :=
        List.exists_cons_of_ne_nil (by simp)
      refine ⟨part.heading ++ ['\n'], "\n\n".toList ++ "\n\n".toList.intercalate (rest.map H2Part.full ++ [end_]), ?_,
        ih.behind _⟩
      rw [List.map_cons, List.cons_append, same, List.intercalate_cons_cons, ← same, H2Part.full]
      simp

theorem injection_ok (returned : sectionAwareInjection summarize stageType content mode = .ok result) :
    keptCost (keptParts stageType content mode) ≤ maxUpstreamChars + 2 ∧
      ∃ summary : DocText, summary.length ≤ maxUpstreamChars - keptCost (keptParts stageType content mode) ∧
        result = "\n\n".toList.intercalate ((keptParts stageType content mode).map H2Part.full ++ [summary]) := by
  unfold sectionAwareInjection at returned
  cases run : (splitByH2 content).foldlM (Injection.take stageType (keepSections stageType mode))
      { budgetRemaining := maxUpstreamChars } with
  | error error =>
      rw [run] at returned
      cases returned
  | ok last =>
      rw [run] at returned
      obtain ⟨preserved, budget, bounded⟩ := take_ok run
      obtain rfl := Except.ok.inj returned
      simp only [List.nil_append] at preserved budget bounded
      change _ = _ - (keptCost (keptParts stageType content mode) : Int) at budget
      have left := bounded (by simp [maxUpstreamChars])
      refine ⟨by omega, (summarize stageType ("\n".toList.intercalate last.summarized)).take last.budgetRemaining.toNat,
        ?_, by rw [preserved]; rfl⟩
      have cut := List.length_take_le last.budgetRemaining.toNat
        (summarize stageType ("\n".toList.intercalate last.summarized))
      omega

theorem injection_error (refused : sectionAwareInjection summarize stageType content mode = .error error) :
    maxUpstreamChars + 2 < keptCost (keptParts stageType content mode) := by
  unfold sectionAwareInjection at refused
  cases run : (splitByH2 content).foldlM (Injection.take stageType (keepSections stageType mode))
      { budgetRemaining := maxUpstreamChars } with
  | error error =>
      have much : (maxUpstreamChars : Int) + 2 < (keptCost (keptParts stageType content mode) : Nat) := take_error run
      omega
  | ok last =>
      rw [run] at refused
      cases refused

example : (splitByH2 "intro\n## A\nx\n```\n## B\n```".toList).map (·.heading) = [[], "## A".toList] := by
  decide

theorem length_injection (parts : List H2Part) (summary : DocText) :
    ("\n\n".toList.intercalate (parts.map H2Part.full ++ [summary])).length = keptCost parts + summary.length := by
  rw [length_join, List.map_map]
  rfl

theorem keptCost_join (parts : List H2Part) :
    keptCost parts ≤ ("\n\n".toList.intercalate (parts.map H2Part.full)).length + 2 := by
  induction parts with
  | nil => simp [keptCost]
  | cons part rest ih =>
      rw [keptCost_cons, List.map_cons]
      cases rest with
      | nil => simp [keptCost]
      | cons next more =>
          rw [List.map_cons, List.intercalate_cons_cons, ← List.map_cons, List.length_append, List.length_append]
          have two : "\n\n".toList.length = 2 := rfl
          omega

theorem summaryRequirementId_cut (standard : texts.Standard) {letter : Char} (space : isSpace letter = true) :
    (summaryRequirementId texts).cutBy letter = true := by
  have word := standard.space letter space
  have digit := space_not_digit standard space
  have dash : letter ≠ '-' := by
    rintro rfl
    exact absurd space (by decide)
  have dot : letter ≠ '.' := by
    rintro rfl
    exact absurd space (by decide)
  have name := fun left => @requirementKind_fits left letter space
  have free := fun left => @requirementKind_fits left none rfl
  simp only [Pattern.cutBy, Bool.and_eq_true]
  constructor <;> refine sequence_fits ?_ <;>
    simp [Pattern.fits, Texts.threeDigits, Pattern.sequence, Pattern.optional, Pattern.some, word, digit, dash, dot,
      name, free]

/-- An injection keeps its promises exactly if the kept sections leave room for their separators, or are refused. -/
theorem injection_sound_iff (standard : texts.Standard) (summarize : StageType → DocText → DocText)
    (stageType : StageType) (content : DocText) (mode : WorkspaceMode) :
    InjectionSound texts summarize stageType content mode ↔
      keptCost (keptParts stageType content mode) ≤ maxUpstreamChars ∨
        maxUpstreamChars + 2 < keptCost (keptParts stageType content mode) := by
  constructor
  · intro sound
    cases run : sectionAwareInjection summarize stageType content mode with
    | error error => exact .inr (injection_error run)
    | ok result =>
        left
        have bound := sound.bounded result run
        obtain ⟨_, summary, _, rfl⟩ := injection_ok run
        rw [length_injection] at bound
        exact (Nat.le_add_right ..).trans bound
  · intro fits
    constructor
    · intro result returned
      obtain ⟨most, summary, short, rfl⟩ := injection_ok returned
      rw [length_injection]
      omega
    · intro result returned
      obtain ⟨_, summary, _, rfl⟩ := injection_ok returned
      exact carries_join _ summary
    · intro result returned part kept
      obtain ⟨_, summary, _, rfl⟩ := injection_ok returned
      exact mem_join (summaryRequirementId_cut standard (by decide)) (List.mem_map_of_mem kept)
    · intro error refused
      have much := injection_error refused
      have joined := keptCost_join (keptParts stageType content mode)
      omega

theorem injection_sound_iff_small :
    InjectionSound sampleTexts (fun _ narrative => narrative) .harness "x\n## File Tree\na".toList .standard ↔
      keptCost (keptParts .harness "x\n## File Tree\na".toList .standard) ≤ maxUpstreamChars ∨
        maxUpstreamChars + 2 < keptCost (keptParts .harness "x\n## File Tree\na".toList .standard) :=
  injection_sound_iff sampleTexts_standard _ .harness _ .standard

def treeHarness (size : Nat) : DocText := "x\n".toList ++ ("## File Tree\n".toList ++ List.replicate size 'a')

theorem treeHarness_length (size : Nat) : (treeHarness size).length = 15 + size := by
  rw [treeHarness, List.length_append, List.length_append, List.length_replicate, ← Nat.add_assoc]
  rfl

theorem keptLines_replicate (size : Nat) (line : DocText) :
    DocText.keptLines line (List.replicate (size + 1) 'a') = [line.reverse ++ List.replicate (size + 1) 'a'] := by
  induction size generalizing line with
  | zero => simp [DocText.keptLines, Texts.isLineBreak]
  | succ size ih =>
      rw [List.replicate_succ, DocText.keptLines]
      · rw [if_neg (by decide), ih]
        simp [List.replicate_succ]
      · simp

theorem afterFirst_replicate (size : Nat) : DocText.afterFirst "<!--".toList (List.replicate size 'a') = none := by
  induction size with
  | zero => rfl
  | succ size ih =>
      rw [List.replicate_succ, DocText.afterFirst, if_neg (by simp [List.isPrefixOf]), ih]

theorem read_replicate (size : Nat) : HeadingScan.read {} (List.replicate (size + 1) 'a') = ({}, none) := by
  unfold HeadingScan.read
  rw [if_neg Bool.false_ne_true]
  dsimp only
  rw [afterFirst_replicate, List.replicate_succ, List.dropWhile_cons_of_neg (by decide)]
  rfl

theorem splitByH2_tree (size : Nat) : splitByH2 (treeHarness (size + 1)) =
    [{ heading := [], body := "x\n".toList },
      { heading := "## File Tree".toList, body := List.replicate (size + 1) 'a' }] := by
  have lines : DocText.keptLines [] (treeHarness (size + 1)) =
      ["x\n".toList, "## File Tree\n".toList, List.replicate (size + 1) 'a'] := by
    have front : DocText.keptLines [] (treeHarness (size + 1)) =
        "x\n".toList :: "## File Tree\n".toList :: DocText.keptLines [] (List.replicate (size + 1) 'a') := rfl
    rw [front, keptLines_replicate]
    rfl
  have first : HeadingScan.read {} "x\n".toList = ({}, none) := by decide
  have second : HeadingScan.read {} "## File Tree\n".toList = ({}, some "## File Tree".toList) := by decide
  have found : headings (treeHarness (size + 1)) = [{ text := "## File Tree".toList, start := 2, stop := 15 }] := by
    rw [headings, lines]
    simp only [headingsFrom, first, second, read_replicate]
    rfl
  have kept : [DocHeading.mk "## File Tree".toList 2 15].filter (fun heading => "## ".toList.isPrefixOf heading.text) =
      [DocHeading.mk "## File Tree".toList 2 15] := by decide
  have tree : (treeHarness (size + 1)).drop 15 = List.replicate (size + 1) 'a' :=
    (congrArg (List.drop 15) (List.append_assoc ..).symm).trans (List.drop_left' rfl)
  have preamble : (treeHarness (size + 1)).take 2 = "x\n".toList := List.take_left' rfl
  unfold splitByH2
  dsimp only
  rw [found, kept]
  simp only [List.head?_cons, List.head?_nil, Option.map_some, Option.map_none, Option.getD_some, Option.getD_none,
    h2Parts, DocText.slice, List.take_length, preamble, tree]
  rw [if_neg (by decide)]

theorem keptParts_tree (size : Nat) : keptParts .harness (treeHarness (size + 1)) .standard =
    [{ heading := "## File Tree".toList, body := List.replicate (size + 1) 'a' }] := by
  have narrative :
      H2Part.critical (keepSections .harness .standard) { heading := [], body := "x\n".toList } = false := by
    decide
  have critical : ∀ body : DocText,
      H2Part.critical (keepSections .harness .standard) { heading := "## File Tree".toList, body } = true := by
    intro body
    unfold H2Part.critical
    dsimp only
    decide
  rw [keptParts, splitByH2_tree, List.filter_cons_of_neg (by rw [narrative]; exact Bool.false_ne_true),
    List.filter_cons_of_pos (critical _)]
  rfl

theorem injection_tree {size : Nat} (positive : 0 < size) (full : size + 13 = maxUpstreamChars)
    (summarize : StageType → DocText → DocText) :
    maxUpstreamChars < (treeHarness size).length ∧
      ∃ result, sectionAwareInjection summarize .harness (treeHarness size) .standard = .ok result ∧
        result.length = maxUpstreamChars + 2 := by
  obtain ⟨size, rfl⟩ := Nat.exists_eq_add_of_lt positive
  rw [Nat.zero_add] at full ⊢
  have cost : keptCost (keptParts .harness (treeHarness (size + 1)) .standard) = maxUpstreamChars + 2 := by
    rw [keptParts_tree, keptCost, List.map_singleton, List.sum_singleton, H2Part.full, List.length_append,
      List.length_cons, List.length_replicate]
    have heading : "## File Tree".toList.length = 12 := by decide
    dsimp only
    omega
  constructor
  · rw [treeHarness_length]
    omega
  · cases run : sectionAwareInjection summarize .harness (treeHarness (size + 1)) .standard with
    | error error =>
        have much := injection_error run
        omega
    | ok result =>
        obtain ⟨_, summary, short, same⟩ := injection_ok run
        refine ⟨_, rfl, ?_⟩
        rw [same, length_injection]
        omega

theorem injection_too_long :
    maxUpstreamChars < (treeHarness 199987).length ∧
      ∀ summarize, ∃ result,
        sectionAwareInjection summarize .harness (treeHarness 199987) .standard = .ok result ∧
          result.length = maxUpstreamChars + 2 := by
  have tree := @injection_tree 199987 (by decide) rfl
  exact ⟨(tree fun _ content => content).1, fun summarize => (tree summarize).2⟩

end Thought2Build.Pipeline
