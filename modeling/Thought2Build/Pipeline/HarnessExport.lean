import Thought2Build.Pipeline.HarnessExportCore

/-!
The paths of an exported harness: each of them stays below its folder and is plain on every system, and no two of them
are the same. Nothing compares them otherwise, so they need not form a tree of files.
-/

namespace Thought2Build.Pipeline

open Patterns Pattern Dictionaries SplitTexts

def AsciiUpper (upper : DocText → DocText) : Prop :=
  ∀ text : DocText, (∀ letter ∈ text, letter.toNat < 128) → upper text = text.map Char.toUpper

def IsDevice (part : DocText) : Prop :=
  (part.takeWhile (· ≠ '.')).map Char.toUpper ∈ windowsReservedNames.map String.toList

structure PlainComponent (part : DocText) : Prop where
  filled : part ≠ []
  notDot : part ≠ ".".toList
  notDotDot : part ≠ "..".toList
  noSlash : '/' ∉ part
  noColon : ':' ∉ part
  noBackslash : '\x5c' ∉ part
  printable : ∀ letter ∈ part, 32 ≤ letter.toNat

structure SafeComponent (part : DocText) : Prop extends PlainComponent part where
  notDevice : ¬IsDevice part

def PathOf (Component : DocText → Prop) (path : DocText) : Prop :=
  ∃ parts, parts ≠ [] ∧ path = ['/'].intercalate ("harness".toList :: parts) ∧ ∀ part ∈ parts, Component part

def SafePath (path : DocText) : Prop := PathOf SafeComponent path

/-- Paths that can be extracted together: no control character of Unicode, no file where another has a directory, and
no two files that differ in the case of letters only. -/
structure SafeTree (paths : List DocText) : Prop where
  safe : ∀ path ∈ paths, SafePath path
  printable : ∀ path ∈ paths, ∀ letter ∈ path, ¬(letter.toNat < 32 ∨ 127 ≤ letter.toNat ∧ letter.toNat < 160)
  directories : ∀ path ∈ paths, ∀ other ∈ paths, ¬path ++ ['/'] <+: other
  cases : ∀ path ∈ paths, ∀ other ∈ paths, path.map Char.toLower = other.map Char.toLower → path = other

section

variable {upper : DocText → DocText} {part filename path : DocText} {files : List (DocText × DocText)}

theorem ascii_of_toUpper {letter : Char} (ascii : letter.toUpper.toNat < 128) : letter.toNat < 128 := by
  by_cases lower : 'a'.val ≤ letter.val ∧ letter.val ≤ 'z'.val
  · exact (show letter.val.toNat ≤ 122 from lower.2).trans_lt (by decide)
  · have same : letter.toUpper = letter := dif_neg lower
    rwa [same] at ascii

theorem isReserved_of_device (ascii : AsciiUpper upper) (device : IsDevice part) : isReserved upper part = true := by
  have names : ∀ name ∈ windowsReservedNames.map String.toList, name.all (fun letter => letter.toNat < 128) = true := by
    decide
  have plain : ∀ letter ∈ part.takeWhile (· ≠ '.'), letter.toNat < 128 := fun letter member =>
    ascii_of_toUpper (of_decide_eq_true (List.all_eq_true.mp (names _ device) _ (List.mem_map_of_mem member)))
  rw [isReserved, ascii _ plain]
  exact decide_eq_true device

theorem safeHarnessPath_parts (found : safeHarnessPath upper filename = some path) :
    PathOf (fun part => PlainComponent part ∧ isReserved upper part = false) path := by
  unfold safeHarnessPath at found
  dsimp only at found
  split_ifs at found with empty control bare climbs colon reserved
  obtain rfl := Option.some.inj found
  simp only [Bool.not_eq_true, List.any_eq_false, decide_eq_true_eq, Nat.not_lt] at control
  obtain ⟨_, inside⟩ := Bool.or_eq_false_iff.mp (Bool.eq_false_iff.mpr climbs)
  obtain ⟨some_, plain⟩ := Bool.or_eq_false_iff.mp (Bool.eq_false_iff.mpr colon)
  have within : ∀ part ∈ (PurePosixPath.ofText (DocText.dropHarness (DocText.forwardSlashes filename.strip))).parts,
      part ⊆ DocText.forwardSlashes filename.strip := by
    intro part member
    have below : DocText.dropHarness (DocText.forwardSlashes filename.strip) ⊆
        DocText.forwardSlashes filename.strip := by
      rw [DocText.dropHarness]
      split
      · exact List.drop_subset _ _
      · exact List.Subset.refl _
    exact List.Subset.trans (part_subset (List.mem_filter.mp member).1) below
  refine ⟨_, of_decide_eq_false some_, rfl, fun part member => ?_⟩
  obtain ⟨filled, dot, slash⟩ := (PurePosixPath.ofText _).plain part member
  refine ⟨⟨filled, dot, ?_, slash, ?_, ?_, fun letter here => control letter (within part member here)⟩, ?_⟩
  · rintro rfl
    exact Bool.false_ne_true (inside.symm.trans (List.contains_iff_mem.mpr member))
  · intro here
    exact List.any_eq_false.mp plain part member (List.contains_iff_mem.mpr here)
  · intro here
    obtain ⟨letter, _, same⟩ := List.mem_map.mp (within part member here)
    split at same
    · exact absurd same (by decide)
    · rename_i other
      exact other same
  · exact Bool.eq_false_iff.mpr fun device => reserved (List.any_eq_true.mpr ⟨part, member, device⟩)

theorem PathOf.safe (ascii : AsciiUpper upper)
    (plain : PathOf (fun part => PlainComponent part ∧ isReserved upper part = false) path) : SafePath path := by
  obtain ⟨parts, filled, whole, each⟩ := plain
  refine ⟨parts, filled, whole, fun part member => ⟨(each part member).1, fun device => ?_⟩⟩
  exact Bool.false_ne_true ((each part member).2.symm.trans (isReserved_of_device ascii device))

def Exported (upper : DocText → DocText) (files : List (DocText × DocText)) : Prop :=
  (∀ path ∈ files.map (·.1), PathOf (fun part => PlainComponent part ∧ isReserved upper part = false) path) ∧
    (files.map (·.1)).Nodup

theorem exported_add {found : HarnessFiles} (exported : Exported upper found.files) (block : LabelledBlock) :
    Exported upper (found.add upper block).files := by
  rw [HarnessFiles.add]
  cases accepted : safeHarnessPath upper block.filename with
  | none => exact exported
  | some path =>
      refine ⟨fun other member => ?_, nodup_put exported.2 path block.content⟩
      obtain ⟨file, stored, rfl⟩ := List.mem_map.mp member
      rcases mem_put stored with rfl | old
      · exact safeHarnessPath_parts accepted
      · exact exported.1 _ (List.mem_map_of_mem old)

theorem exported_labelledFiles (lines : List DocText) {found : HarnessFiles} (exported : Exported upper found.files)
    (skipped : Nat) : Exported upper (labelledFiles upper found skipped lines).files := by
  induction lines generalizing found skipped with
  | nil => rwa [labelledFiles]
  | cons line rest ih =>
      cases skipped with
      | succ skipped => exact ih exported skipped
      | zero =>
          rw [labelledFiles]
          split
          · exact ih (exported_add exported _) _
          · exact ih exported 0

theorem parseHarnessFiles_cases (upper redactUnsafeLines : DocText → DocText) (harnessContent : DocText) :
    Exported upper (parseHarnessFiles upper redactUnsafeLines harnessContent) ∨
      parseHarnessFiles upper redactUnsafeLines harnessContent =
        [(harnessFallback.toList, redactUnsafeLines harnessContent)] := by
  rw [parseHarnessFiles]
  split
  · exact .inl (exported_labelledFiles _ (show Exported upper [] from ⟨by simp, List.nodup_nil⟩) 0)
  · exact .inr rfl

theorem PathOf.mono {Component Weaker : DocText → Prop} (weakens : ∀ part, Component part → Weaker part)
    (each : PathOf Component path) : PathOf Weaker path := by
  obtain ⟨parts, filled, whole, components⟩ := each
  exact ⟨parts, filled, whole, fun part member => weakens part (components part member)⟩

theorem harnessFallback_safe : SafePath harnessFallback.toList := by
  refine ⟨["HARNESS.md".toList], List.cons_ne_nil _ _, by decide, fun part here => ?_⟩
  obtain rfl := List.mem_singleton.mp here
  have printable : "HARNESS.md".toList.all (fun letter => 32 ≤ letter.toNat) = true := by decide
  exact ⟨⟨by decide, by decide, by decide, by decide, by decide, by decide,
    fun letter inside => of_decide_eq_true (List.all_eq_true.mp printable letter inside)⟩, by unfold IsDevice; decide⟩

theorem parseHarnessFiles_plain {redactUnsafeLines : DocText → DocText} {harnessContent : DocText}
    {file : DocText × DocText} (member : file ∈ parseHarnessFiles upper redactUnsafeLines harnessContent) :
    PathOf PlainComponent file.1 := by
  rcases parseHarnessFiles_cases upper redactUnsafeLines harnessContent with exported | fallback
  · exact (exported.1 _ (List.mem_map_of_mem member)).mono fun _ both => both.1
  · rw [fallback] at member
    obtain rfl := List.mem_singleton.mp member
    exact harnessFallback_safe.mono fun _ safe => safe.toPlainComponent

/-- Every path of an export stays in its folder and has plain components, and no file takes the path of another. -/
theorem harness_files_exported (ascii : AsciiUpper upper) (redactUnsafeLines : DocText → DocText)
    (harnessContent : DocText) :
    (∀ file ∈ parseHarnessFiles upper redactUnsafeLines harnessContent, SafePath file.1) ∧
      ((parseHarnessFiles upper redactUnsafeLines harnessContent).map (·.1)).Nodup := by
  rcases parseHarnessFiles_cases upper redactUnsafeLines harnessContent with exported | fallback
  · exact ⟨fun file member => (exported.1 _ (List.mem_map_of_mem member)).safe ascii, exported.2⟩
  · rw [fallback]
    refine ⟨fun file member => ?_, List.nodup_singleton _⟩
    obtain rfl := List.mem_singleton.mp member
    exact harnessFallback_safe

end

def sampleUpper (text : DocText) : DocText := text.map Char.toUpper

theorem sampleUpper_ascii : AsciiUpper sampleUpper := fun _ _ => rfl

def collidingHarness : DocText := DocText.ofParts [
  "## File: a\n```\n1\n```\n## File: a/b\n```\n2\n```\n## File: A\n```\n3\n```\n",
  "## File: x\x7fy\n```\n4\n```"]

theorem collidingHarness_paths : (parseHarnessFiles sampleUpper id collidingHarness).map (·.1) =
    ["harness/a".toList, "harness/a/b".toList, "harness/A".toList, "harness/x\x7fy".toList] := by
  have letters : collidingHarness = List.flatten _ := DocText.ofParts_letters [_, _]
  rw [letters]
  decide +kernel

theorem harness_files_exported_sample : AsciiUpper sampleUpper ∧
    (∀ file ∈ parseHarnessFiles sampleUpper id collidingHarness, SafePath file.1) ∧
      ((parseHarnessFiles sampleUpper id collidingHarness).map (·.1)).Nodup :=
  ⟨sampleUpper_ascii, harness_files_exported sampleUpper_ascii id collidingHarness⟩

theorem exported_paths_collide :
    let paths := (parseHarnessFiles sampleUpper id collidingHarness).map (·.1)
    ((∃ path ∈ paths, ∃ other ∈ paths, path ++ ['/'] <+: other) ∧
      (∃ path ∈ paths, ∃ other ∈ paths, path ≠ other ∧ path.map Char.toLower = other.map Char.toLower) ∧
      ∃ path ∈ paths, '\x7f' ∈ path) ∧ ¬SafeTree paths := by
  rw [collidingHarness_paths]
  refine ⟨⟨⟨_, .head _, _, .tail _ (.head _), ?_⟩, ⟨_, .head _, _, .tail _ (.tail _ (.head _)), ?_⟩,
    ⟨_, .tail _ (.tail _ (.tail _ (.head _))), ?_⟩⟩, fun tree => ?_⟩
  · decide
  · decide
  · decide
  · exact tree.directories _ (.head _) _ (.tail _ (.head _)) (by decide)

end Thought2Build.Pipeline
