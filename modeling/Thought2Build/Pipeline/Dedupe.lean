import Thought2Build.Pipeline.DedupeCore

/-!
What the rewrites drop: an artifact is its file blocks, or its sections, one behind the other, and of those with one
path or one contract heading the first is kept.
-/

namespace Thought2Build.Pipeline

open DocText FirstWins
open Integrations (WorkspaceMode)

theorem newline_not_mem {text line : DocText} (member : line ∈ text.splitOn '\n') : '\n' ∉ line := by
  induction text generalizing line with
  | nil => simp_all
  | cons letter rest ih =>
      rw [List.splitOn_cons_eq_if_modifyHead] at member
      split at member
      · rcases List.mem_cons.mp member with rfl | later
        · exact List.not_mem_nil
        · exact ih later
      · rename_i other
        cases split' : rest.splitOn '\n' with
        | nil => exact absurd split' (List.splitOn_ne_nil _ _)
        | cons first lines =>
            rw [split', List.modifyHead_cons] at member
            rcases List.mem_cons.mp member with rfl | later
            · have plain : '\n' ∉ first := ih (by simp [split'])
              exact fun again => (List.mem_cons.mp again).elim (fun same => other (beq_iff_eq.mpr same.symm)) plain
            · exact ih (by simp [split', later])

theorem splitOn_joined {text : DocText} {lines : List DocText} (sublist : lines.Sublist (text.splitOn '\n'))
    (filled : lines ≠ []) : (['\n'].intercalate lines).splitOn '\n' = lines :=
  List.splitOn_intercalate '\n' (fun _ member => newline_not_mem (sublist.subset member)) filled

def opensSection (inFence : Bool) (line : DocText) : Bool := !isFenceLine line && !inFence && isTerminator line

def splitSections (inFence : Bool) : List DocText → List DocText × List (List DocText)
  | [] => ([], [])
  | line :: rest =>
      let split := splitSections (inFence ^^ isFenceLine line) rest
      if opensSection inFence line then ([], (line :: split.1) :: split.2) else (line :: split.1, split.2)

section

attribute [local simp] splitSections

end

def sectionKey (ordered : List String) (lines : List DocText) : Option String :=
  lines.head?.bind (contractHeading ordered)

theorem splitSections_flatten (inFence : Bool) (lines : List DocText) :
    (splitSections inFence lines).1 ++ (splitSections inFence lines).2.flatten = lines := by
  induction lines generalizing inFence with
  | nil => rfl
  | cons line rest ih =>
      have later := ih (inFence ^^ isFenceLine line)
      rw [splitSections]
      split
      · rw [List.flatten_cons, List.nil_append, List.cons_append, later]
      · rw [List.cons_append, later]

theorem splitSections_front (inFence : Bool) (lines : List DocText) :
    splitSections inFence (splitSections inFence lines).1 = ((splitSections inFence lines).1, []) := by
  induction lines generalizing inFence with
  | nil => rfl
  | cons line rest ih =>
      rw [splitSections]
      split
      · rfl
      · rename_i inside
        rw [splitSections, if_neg inside, ih]

theorem mem_splitSections {inFence : Bool} {lines own : List DocText} (member : own ∈ (splitSections inFence lines).2) :
    ∃ heading body, own = heading :: body ∧ opensSection false heading = true ∧ splitSections false body = (body, []) := by
  induction lines generalizing inFence with
  | nil => simp [splitSections] at member
  | cons line rest ih =>
      rw [splitSections] at member
      split at member
      · rename_i opens
        rcases List.mem_cons.mp member with rfl | later
        · have plain : isFenceLine line = false ∧ inFence = false := by
            simp only [opensSection, Bool.and_eq_true, Bool.not_eq_true'] at opens
            exact opens.1
          rw [plain.2] at opens
          refine ⟨line, _, rfl, opens, ?_⟩
          rw [plain.1, plain.2]
          exact splitSections_front false rest
        · exact ih later
      · exact ih member

theorem outside_of_opens {inFence : Bool} {line : DocText} (opens : opensSection inFence line = true) :
    inFence = false := by
  simp only [opensSection, Bool.and_eq_true, Bool.not_eq_true'] at opens
  exact opens.1.2

theorem splitSections_behind {inFence : Bool} {front back : List DocText} {kept : List (List DocText)}
    (split : splitSections inFence (front ++ back) = (front, kept)) : splitSections false back = ([], kept) := by
  induction front generalizing inFence with
  | nil =>
      cases back with
      | nil => exact split
      | cons line rest =>
          rw [List.nil_append, splitSections] at split
          split at split
          · rename_i opens
            rw [splitSections, ← outside_of_opens opens, if_pos opens]
            exact split
          · cases split
  | cons line front ih =>
      rw [List.cons_append, splitSections] at split
      split at split
      · cases split
      · simp only [Prod.mk.injEq, List.cons.injEq, true_and] at split
        exact ih (Prod.ext split.1 split.2)

theorem splitSections_kept (inFence : Bool) (lines : List DocText) {kept : List (List DocText)}
    (sublist : kept.Sublist (splitSections inFence lines).2) :
    splitSections inFence ((splitSections inFence lines).1 ++ kept.flatten) =
      ((splitSections inFence lines).1, kept) := by
  induction lines generalizing inFence kept with
  | nil =>
      obtain rfl := List.sublist_nil.mp sublist
      rfl
  | cons line rest ih =>
      rw [splitSections] at sublist ⊢
      split at sublist
      · rename_i opens
        rw [if_pos opens, List.nil_append]
        cases sublist with
        | cons _ later =>
            -- a section starts outside a fence, so without it the fences behind it are read as before
            rw [outside_of_opens opens]
            exact splitSections_behind (ih _ later)
        | cons_cons _ later =>
            rw [List.flatten_cons, List.cons_append, splitSections, if_pos opens, ih _ later]
      · rename_i inside
        rw [if_neg inside, List.cons_append, splitSections, if_neg inside, ih _ sublist]

namespace SectionScan

variable {ordered : List String} {scan : SectionScan} {line : DocText}

theorem keep_kept : (scan.keep line).kept = scan.kept ++ if scan.dropping then [] else [line] := by
  rw [keep]
  split <;> simp

theorem keep_inFence : (scan.keep line).inFence = scan.inFence := by
  rw [keep]
  split <;> rfl

theorem keep_seen : (scan.keep line).seen = scan.seen := by
  rw [keep]
  split <;> rfl

theorem keep_dropping : (scan.keep line).dropping = scan.dropping := by
  rw [keep]
  split <;> rfl

theorem keep_removed : (scan.keep line).removed = scan.removed := by
  rw [keep]
  split <;> rfl

theorem read_inside (inside : opensSection scan.inFence line = false) :
    scan.read ordered line = keep { scan with inFence := scan.inFence ^^ isFenceLine line } line := by
  rw [read]
  split
  · rename_i fence
    rw [fence, Bool.xor_true]
  · rename_i plain
    have text : isFenceLine line = false := by simpa using plain
    rw [if_neg, text, Bool.xor_false]
    rintro ⟨outside, ends⟩
    simp [opensSection, text, outside, ends] at inside

theorem foldl_read (lines : List DocText) :
    (lines.foldl (read ordered) scan).kept = scan.kept ++ ((if scan.dropping then [] else (splitSections scan.inFence lines).1) ++
      (firstWins (sectionKey ordered) scan.seen (splitSections scan.inFence lines).2).flatten) ∧
    (lines.foldl (read ordered) scan).removed +
        (firstWins (sectionKey ordered) scan.seen (splitSections scan.inFence lines).2).length =
      scan.removed + (splitSections scan.inFence lines).2.length := by
  induction lines generalizing scan with
  | nil => simp [splitSections, firstWins]
  | cons line rest ih =>
      rw [List.foldl_cons, splitSections]
      cases opens : opensSection scan.inFence line with
      | false =>
          obtain ⟨kept, removed⟩ := @ih (keep { scan with inFence := scan.inFence ^^ isFenceLine line } line)
          rw [keep_kept, keep_inFence, keep_seen, keep_dropping] at kept
          rw [keep_inFence, keep_seen, keep_removed] at removed
          rw [read_inside opens, if_neg Bool.false_ne_true]
          refine ⟨?_, removed⟩
          rw [kept]
          cases scan.dropping <;> simp
      | true =>
          obtain ⟨⟨text, outside⟩, ends⟩ : (isFenceLine line = false ∧ scan.inFence = false) ∧ isTerminator line = true := by
            simpa [opensSection] using opens
          have heads : ∀ tail, sectionKey ordered (line :: tail) = contractHeading ordered line := fun _ => rfl
          rw [read, if_neg (by simp [text]), if_pos ⟨outside, ends⟩, if_pos rfl, text, Bool.xor_false, outside]
          cases heading : contractHeading ordered line with
          | none =>
              obtain ⟨kept, removed⟩ := @ih { scan with dropping := false, kept := scan.kept ++ [line] }
              simp only [outside, Bool.false_eq_true, if_false] at kept removed
              rw [firstWins_unkeyed ((heads _).trans heading)]
              refine ⟨?_, ?_⟩
              · simp only [kept, List.flatten_cons]
                cases scan.dropping <;> simp
              · simp only [List.length_cons]
                omega
          | some own =>
              dsimp only
              split
              · rename_i old
                obtain ⟨kept, removed⟩ := @ih { scan with dropping := true, removed := scan.removed + 1 }
                simp only [outside, if_true] at kept removed
                rw [firstWins_repeated ((heads _).trans heading) old]
                refine ⟨?_, ?_⟩
                · simp only [kept]
                  cases scan.dropping <;> simp
                · simp only [List.length_cons]
                  omega
              · rename_i new
                obtain ⟨kept, removed⟩ :=
                  @ih { scan with seen := own :: scan.seen, dropping := false, kept := scan.kept ++ [line] }
                simp only [outside, Bool.false_eq_true, if_false] at kept removed
                rw [firstWins_new ((heads _).trans heading) new]
                refine ⟨?_, ?_⟩
                · simp only [kept, List.flatten_cons]
                  cases scan.dropping <;> simp
                · simp only [List.length_cons]
                  omega

end SectionScan

variable (stageType : StageType) (mode : WorkspaceMode) (artifactMd : DocText)

def preamble (artifactMd : DocText) : List DocText := (splitSections false (artifactMd.splitOn '\n')).1

def sections (artifactMd : DocText) : List (List DocText) := (splitSections false (artifactMd.splitOn '\n')).2

def keptSections (stageType : StageType) (mode : WorkspaceMode) (artifactMd : DocText) : List (List DocText) :=
  firstWins (sectionKey (orderedHeadings stageType mode)) [] (sections artifactMd)

theorem sections_flatten : preamble artifactMd ++ (sections artifactMd).flatten = artifactMd.splitOn '\n' :=
  splitSections_flatten false _

theorem kept_ne_nil : preamble artifactMd ++ (keptSections stageType mode artifactMd).flatten ≠ [] := by
  intro empty
  obtain ⟨front, back⟩ := List.append_eq_nil_iff.mp empty
  have whole := sections_flatten artifactMd
  cases split : sections artifactMd with
  | nil =>
      rw [front, split] at whole
      exact List.splitOn_ne_nil '\n' artifactMd whole.symm
  | cons first rest =>
      obtain ⟨heading, body, rfl, _⟩ := mem_splitSections (split ▸ List.mem_cons_self : first ∈ sections artifactMd)
      have kept : (heading :: body) ∈ keptSections stageType mode artifactMd := by
        rw [keptSections, split, firstWins]
        split <;> simp
      exact absurd (List.flatten_eq_nil_iff.mp back _ kept) (List.cons_ne_nil _ _)

theorem dedupeContractSections_lines :
    (dedupeContractSections stageType artifactMd mode).1.splitOn '\n' =
      preamble artifactMd ++ (keptSections stageType mode artifactMd).flatten ∧
    (dedupeContractSections stageType artifactMd mode).2 + (keptSections stageType mode artifactMd).length =
      (sections artifactMd).length := by
  have whole := sections_flatten artifactMd
  have all : keptSections stageType mode artifactMd = sections artifactMd →
      artifactMd.splitOn '\n' = preamble artifactMd ++ (keptSections stageType mode artifactMd).flatten ∧
      0 + (keptSections stageType mode artifactMd).length = (sections artifactMd).length := by
    intro same
    rw [same]
    exact ⟨whole.symm, Nat.zero_add _⟩
  rw [dedupeContractSections]
  split
  · rename_i none'
    refine all (firstWins_eq_self ?_ (by simp))
    have unkeyed : ∀ lines, sectionKey [] lines = none := by
      intro lines
      rw [sectionKey, Option.bind_eq_none_iff]
      intro line _
      rw [contractHeading]
      split <;> rfl
    rw [none', List.filterMap_eq_nil_iff.mpr fun lines _ => unkeyed lines]
    exact List.nodup_nil
  · obtain ⟨kept, removed⟩ := @SectionScan.foldl_read (orderedHeadings stageType mode) {} (artifactMd.splitOn '\n')
    rw [Nat.zero_add] at removed
    dsimp only
    split
    · rename_i nothing
      rw [nothing, Nat.zero_add] at removed
      exact all (firstWins_sublist.eq_of_length removed)
    · refine ⟨?_, removed⟩
      rw [List.nil_append, if_neg Bool.false_ne_true] at kept
      rw [kept]
      exact splitOn_joined (whole ▸ (List.Sublist.refl _).append firstWins_sublist.flatten)
        (kept_ne_nil stageType mode artifactMd)

/-- A second pass drops nothing. -/
theorem dedupeContractSections_settles :
    dedupeContractSections stageType (dedupeContractSections stageType artifactMd mode).1 mode =
      ((dedupeContractSections stageType artifactMd mode).1, 0) := by
  obtain ⟨lines, -⟩ := dedupeContractSections_lines stageType mode artifactMd
  generalize (dedupeContractSections stageType artifactMd mode).1 = rewritten at lines ⊢
  have split : splitSections false (rewritten.splitOn '\n') =
      (preamble artifactMd, keptSections stageType mode artifactMd) := by
    rw [lines]
    exact splitSections_kept false _ firstWins_sublist
  have same : keptSections stageType mode rewritten = keptSections stageType mode artifactMd := by
    rw [keptSections, sections, split]
    exact firstWins_eq_self keys_firstWins.1 (by simp)
  obtain ⟨-, removed⟩ := dedupeContractSections_lines stageType mode rewritten
  rw [same, sections, split] at removed
  have none' : (dedupeContractSections stageType rewritten mode).2 = 0 := Nat.add_eq_right.mp removed
  rw [dedupeContractSections] at none' ⊢
  dsimp only at none' ⊢
  split at none'
  · rename_i unordered
    rw [if_pos unordered]
  · rename_i ordered
    split at none'
    · rename_i nothing
      rw [if_neg ordered, if_pos nothing]
    · contradiction

theorem splitBlocks_flatten (before text : DocText) :
    (splitBlocks before text).1 ++ (splitBlocks before text).2.flatten = text := by
  induction text generalizing before with
  | nil => rfl
  | cons letter rest ih =>
      have later := ih (letter :: before)
      rw [splitBlocks]
      split
      · rw [List.cons_append, later]
      · rw [List.flatten_cons, List.nil_append, List.cons_append, later]

theorem cutAt_eq {text whole : DocText} {found : DocText × DocText} (cut : cutAt text whole = some found) :
    found.1 ++ found.2 = whole := by
  induction whole generalizing found with
  | nil => contradiction
  | cons letter rest ih =>
      rw [cutAt] at cut
      split at cut
      · obtain rfl := Option.some.inj cut
        rfl
      · obtain ⟨later, reached, rfl⟩ := Option.map_eq_some_iff.mp cut
        rw [List.cons_append, ih reached]

def blockKey (block : DocText) : Option DocText := truthy (some (segmentPath block))

namespace BlockScan

variable {scan : BlockScan}

theorem read_repeated {block : DocText} (named : segmentPath block ≠ []) (old : segmentPath block ∈ scan.seen) :
    scan.read block = { scan with removed := scan.removed + 1 } := by
  rw [read, if_pos ⟨named, old⟩]

theorem foldl_read (blocks : List DocText) :
    (blocks.foldl read scan).kept = scan.kept ++ firstWins blockKey scan.seen blocks ∧
    (blocks.foldl read scan).removed + (firstWins blockKey scan.seen blocks).length =
      scan.removed + blocks.length := by
  induction blocks generalizing scan with
  | nil => simp [firstWins]
  | cons block rest ih =>
      rw [List.foldl_cons]
      by_cases named : segmentPath block = []
      · have unkeyed : blockKey block = none := by simp [blockKey, truthy, named]
        obtain ⟨kept, removed⟩ := @ih (scan.read block)
        rw [firstWins_unkeyed unkeyed]
        simp only [read, named, ne_eq, not_true_eq_false, false_and, if_false, if_true] at kept removed ⊢
        refine ⟨by simp [kept], ?_⟩
        simp only [List.length_cons]
        omega
      · have keyed : blockKey block = some (segmentPath block) := by simp [blockKey, truthy, named]
        by_cases old : segmentPath block ∈ scan.seen
        · obtain ⟨kept, removed⟩ := @ih { scan with removed := scan.removed + 1 }
          rw [read_repeated named old, firstWins_repeated keyed old]
          refine ⟨kept, ?_⟩
          dsimp only at removed
          simp only [List.length_cons]
          omega
        · obtain ⟨kept, removed⟩ := @ih (scan.read block)
          rw [firstWins_new keyed old]
          simp only [read, named, old, and_false, if_false] at kept removed ⊢
          refine ⟨by simp [kept], ?_⟩
          simp only [List.length_cons]
          omega

end BlockScan

def fileBlocks (artifactMd : DocText) : DocText × List DocText :=
  match cutAt "\n## Files".toList artifactMd with
  | none => (artifactMd, [])
  | some (head, filesRegion) => (head ++ (splitBlocks [] filesRegion).1, (splitBlocks [] filesRegion).2)

theorem fileBlocks_flatten : (fileBlocks artifactMd).1 ++ (fileBlocks artifactMd).2.flatten = artifactMd := by
  rw [fileBlocks]
  split
  · exact List.append_nil _
  · rename_i head filesRegion cut
    rw [List.append_assoc, splitBlocks_flatten]
    exact cutAt_eq cut

def keptBlocks (artifactMd : DocText) : List DocText := firstWins blockKey [] (fileBlocks artifactMd).2

theorem dedupeFileBlocks_blocks :
    (dedupeFileBlocks artifactMd).1 = (fileBlocks artifactMd).1 ++ (keptBlocks artifactMd).flatten ∧
    (dedupeFileBlocks artifactMd).2 + (keptBlocks artifactMd).length = (fileBlocks artifactMd).2.length := by
  have whole := fileBlocks_flatten artifactMd
  rw [dedupeFileBlocks, keptBlocks]
  rw [fileBlocks] at whole ⊢
  cases cut : cutAt "\n## Files".toList artifactMd with
  | none => exact ⟨(List.append_nil _).symm, rfl⟩
  | some found =>
      rw [cut] at whole
      obtain ⟨head, filesRegion⟩ := found
      obtain ⟨kept, removed⟩ :=
        @BlockScan.foldl_read { kept := [(splitBlocks [] filesRegion).1] } (splitBlocks [] filesRegion).2
      rw [Nat.zero_add] at removed
      dsimp only at whole kept removed ⊢
      split
      · rename_i nothing
        rw [nothing, Nat.zero_add] at removed
        rw [firstWins_sublist.eq_of_length removed]
        exact ⟨whole.symm, Nat.zero_add _⟩
      · refine ⟨?_, removed⟩
        rw [kept]
        simp

def doubledTasks : DocText := DocText.ofParts [
  "## Effort Summary\n", "### T-001: Log in\n", "## Effort Summary\n", "### T-002: Log out"]

end Thought2Build.Pipeline
