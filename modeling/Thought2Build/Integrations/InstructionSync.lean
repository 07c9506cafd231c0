import Thought2Build.Integrations.InstructionFilesCore

/-!
A write that goes through at its first attempt replaces the text that its content was merged from. What is outside
the managed blocks of that text stays, but for white space alone and for an operating manual without marks.
-/

namespace Thought2Build.Integrations

open Histories
open Pipeline (isSpace)

namespace FileText

variable {old kept written block generated content : FileText} {instructions : Instructions}

def Outside (old kept : FileText) : Prop := ∃ middle, managedMarks.Leaves old middle ∧ demoMarks.Leaves middle kept

def Preserves (old written : FileText) : Prop := ∃ kept, Outside old kept ∧ kept.Sublist written

def OnlyBlocks (old : FileText) : Prop := ∃ kept, Outside old kept ∧ ∀ letter ∈ kept, isSpace letter = true

theorem preserves_of_sublist (same : old.Sublist written) : Preserves old written :=
  ⟨old, ⟨old, Marks.Leaves.refl old, Marks.Leaves.refl old⟩, same⟩

theorem preserves_withBlock (old block : FileText) : Preserves old (old.withBlock block) :=
  preserves_of_sublist (List.sublist_append_left _ _)

theorem sublist_replaced (before block after : FileText) :
    (before ++ after).Sublist (before ++ (block ++ after)) :=
  (List.Sublist.refl before).append (List.sublist_append_right block after)

theorem preserves_replaceOrAppend (old block : FileText) : Preserves old (replaceOrAppend old block) := by
  unfold replaceOrAppend
  split
  · rename_i before former after found
    obtain ⟨rfl, isBlock⟩ := Marks.firstBlock_eq found
    exact ⟨before ++ after, ⟨_, Marks.leaves_append isBlock, Marks.Leaves.refl _⟩, sublist_replaced _ _ _⟩
  · exact preserves_withBlock old block

theorem managedMarks_apart : managedMarks.Apart := by
  decide

theorem managedBlock_generated (plain : ¬demoMarks.opening <:+: instructions.generated) :
    managedBlock instructions.generated ≠ none := by
  obtain ⟨mode, managed⟩ := instructions
  cases mode with
  | standard =>
      refine mt Option.map_eq_none_iff.mp (Marks.firstBlock_of_opens managedMarks_apart ?_)
      exact ⟨"\n".toList ++ managed ++ "\n".toList, "\n".toList, by simp [Instructions.generated]⟩
  | demoDay => exact absurd (List.prefix_append _ _).isInfix plain

theorem preserves_mergeInstructionFile (named : isLegacyManual old = false) (instructions : Instructions) :
    Preserves old (mergeInstructionFile (some old) instructions.generated) := by
  unfold mergeInstructionFile
  split
  · dsimp only
    split
    · rename_i absent
      contradiction
    · rename_i empty
      obtain rfl := Option.some.inj empty
      exact preserves_of_sublist (List.nil_sublist _)
    · rename_i existing filled same
      obtain rfl := Option.some.inj same
      split
      · rename_i before former after found
        obtain ⟨rfl, isBlock⟩ := Marks.firstBlock_eq found
        exact ⟨before ++ after, ⟨_, Marks.Leaves.refl _, Marks.leaves_append isBlock⟩, sublist_replaced _ _ _⟩
      · rw [named]
        exact preserves_withBlock _ _
  · rename_i plain
    split
    · rename_i none
      exact absurd none (managedBlock_generated plain)
    · split
      · rename_i absent
        contradiction
      · rename_i empty
        obtain rfl := Option.some.inj empty
        exact preserves_of_sublist (List.nil_sublist _)
      · rename_i same
        obtain rfl := Option.some.inj same
        exact preserves_replaceOrAppend _ _

theorem strip_eq_nil (empty : strip content = []) : ∀ letter ∈ content, isSpace letter = true := by
  have spaces := List.rdropWhile_eq_nil_iff.mp empty
  refine List.dropWhile_eq_nil_iff.mp ?_
  cases rest : content.dropWhile isSpace with
  | nil => rfl
  | cons letter tail =>
      have first : isSpace letter = true := spaces letter (by simp [rest])
      have stops := List.head?_dropWhile_not isSpace content
      simp [rest, first] at stops

theorem outside_removeManagedInstructions (cleaned : old.removeManagedInstructions = some content) :
    ∃ kept, Outside old kept ∧ (content = kept ∨ content = [] ∧ ∀ letter ∈ kept, isSpace letter = true) := by
  unfold removeManagedInstructions at cleaned
  dsimp only at cleaned
  split at cleaned
  · contradiction
  · refine ⟨_, ⟨_, Marks.removeBlocks_leaves old, Marks.removeBlocks_leaves _⟩, ?_⟩
    split at cleaned
    · rename_i blank
      exact Or.inr ⟨(Option.some.inj cleaned).symm, strip_eq_nil blank⟩
    · exact Or.inl (Option.some.inj cleaned).symm

end FileText

def FileCall.Keeps (old : FileText) : FileCall → Prop
  | .put content => old.isLegacyManual = false → old.Preserves content
  | .delete => old.OnlyBlocks

def FileCall.written : FileCall → Option FileText
  | .put content => some content
  | .delete => none

theorem fileCall_keeps {selected : Option Instructions} {old : FileText} {call : FileCall}
    (calls : fileCall selected (some old) = some call) : call.Keeps old := by
  cases selected with
  | some instructions =>
      simp only [fileCall] at calls
      split at calls
      · contradiction
      · obtain rfl := Option.some.inj calls
        exact fun named => FileText.preserves_mergeInstructionFile named instructions
  | none =>
      simp only [fileCall, Option.bind_eq_bind, Option.bind_some] at calls
      obtain ⟨cleaned, removed, same⟩ := Option.bind_eq_some_iff.mp calls
      obtain ⟨kept, outside, stays⟩ := FileText.outside_removeManagedInstructions removed
      split at same
      · rename_i empty
        obtain rfl := Option.some.inj same
        refine ⟨kept, outside, ?_⟩
        rcases stays with whole | ⟨_, spaces⟩
        · rw [← whole, empty]
          simp
        · exact spaces
      · rename_i filled
        obtain rfl := Option.some.inj same
        rcases stays with whole | ⟨none, _⟩
        · exact fun _ => ⟨kept, outside, by rw [whole]⟩
        · exact absurd none filled

namespace Branch

variable {σ : Type} [DecidableEq σ] {blobSha : FileText → σ} {branch : Branch σ} {key : Nat}

def Holds (blobSha : FileText → σ) : SyncPoint σ → Prop
  | .reading .. => True
  | .calling file selection read call sha attempt => 1 ≤ attempt ∧
      (attempt = 1 → sha = read.map blobSha ∧ fileCall (selection.get file) read = some call)
  | .refetching _ _ _ _ attempt => 1 ≤ attempt

def Sound (blobSha : FileText → σ) (branch : Branch σ) : Prop := branch.runs.All fun _ => Holds blobSha

omit [DecidableEq σ] in
@[simp] theorem runs_set (file : AgentFile) (content : Option FileText) :
    (branch.set file content).runs = branch.runs := by
  cases file <;> rfl

omit [DecidableEq σ] in
@[simp] theorem get_set (file : AgentFile) (content : Option FileText) :
    (branch.set file content).get file = content := by
  cases file <;> rfl

omit [DecidableEq σ] in
@[simp] theorem get_next (key : Nat) (file other : AgentFile) (selection : Selection) :
    (branch.next key file selection).get other = branch.get other := by
  cases file <;> cases other <;> rfl

omit [DecidableEq σ] in
theorem Sound.set (sound : branch.Sound blobSha) (file : AgentFile) (content : Option FileText) :
    (branch.set file content).Sound blobSha := by
  unfold Sound
  rw [runs_set]
  exact sound

omit [DecidableEq σ] in
theorem Sound.at (sound : branch.Sound blobSha) {point : SyncPoint σ} (found : branch.runs.lookup key = some point) :
    Holds blobSha point :=
  @Workers.All.at _ _ (fun _ => Holds blobSha) _ _ sound found

omit [DecidableEq σ] in
theorem Sound.move (sound : branch.Sound blobSha) (key : Nat) (point : SyncPoint σ) (holds : Holds blobSha point) :
    (branch.move key point).Sound blobSha :=
  Workers.All.insert sound holds

omit [DecidableEq σ] in
theorem Sound.stop (sound : branch.Sound blobSha) (key : Nat) : (branch.stop key).Sound blobSha :=
  Workers.All.erase sound key

omit [DecidableEq σ] in
theorem Sound.next (sound : branch.Sound blobSha) (key : Nat) (file : AgentFile) (selection : Selection) :
    (branch.next key file selection).Sound blobSha := by
  cases file with
  | agents => exact sound.move key (.reading .claude selection) trivial
  | claude => exact sound.stop key

omit [DecidableEq σ] in
theorem Sound.conflict (sound : branch.Sound blobSha) {file : AgentFile} {selection : Selection}
    {read : Option FileText} {call : FileCall} {attempt : Nat} (counts : 1 ≤ attempt) :
    (branch.conflict key file selection read call attempt).Sound blobSha := by
  unfold Branch.conflict
  split
  · exact sound.move key (.refetching file selection read call attempt) counts
  · exact sound.stop key

omit [DecidableEq σ] in
theorem Sound.start (sound : branch.Sound blobSha) (key : Nat) (selection : Selection) :
    (branch.start key selection).Sound blobSha := by
  unfold Branch.start
  split
  · exact sound
  · exact sound.move key (.reading .agents selection) trivial

omit [DecidableEq σ] in
theorem Sound.read (sound : branch.Sound blobSha) (key : Nat) : (branch.read blobSha key).Sound blobSha := by
  unfold Branch.read
  split
  · dsimp only
    split
    · exact sound.next key _ _
    · rename_i calls
      exact sound.move key _ ⟨Nat.le_refl 1, fun _ => ⟨rfl, calls⟩⟩
  · exact sound

theorem Sound.call (sound : branch.Sound blobSha) (key : Nat) : (branch.call blobSha key).Sound blobSha := by
  unfold Branch.call
  split
  · rename_i found
    split
    · exact (sound.set _ _).next key _ _
    · exact sound.conflict (sound.at found).1
  · exact sound.next key _ _
  · rename_i found
    split
    · exact sound.next key _ _
    · split
      · exact (sound.set _ _).next key _ _
      · exact sound.conflict (sound.at found).1
  · exact sound

omit [DecidableEq σ] in
theorem Sound.refetch (sound : branch.Sound blobSha) (key : Nat) : (branch.refetch blobSha key).Sound blobSha := by
  unfold Branch.refetch
  split
  · rename_i attempt found
    have counts : 1 ≤ attempt := sound.at found
    exact sound.move key _ ⟨by omega, by omega⟩
  · exact sound

theorem Sound.step (sound : branch.Sound blobSha) (event : SyncEvent) : (branch.step blobSha event).Sound blobSha := by
  cases event with
  | start key selection => exact sound.start key selection
  | read key => exact sound.read key
  | call key => exact sound.call key
  | refetch key => exact sound.refetch key
  | fail key => exact sound.stop key
  | commit file content => exact sound.set file content

/-- The run is about to make its first attempt at a call, and the SHA that it has is that of the file, which tells
the text that it has read from any other. -/
def Lands (blobSha : FileText → σ) (branch : Branch σ) (key : Nat) (file : AgentFile) (call : FileCall)
    (old : FileText) : Prop :=
  ∃ selection read, branch.runs.lookup key = some (.calling file selection read call (some (blobSha old)) 1) ∧
    branch.get file = some old ∧ ∀ text ∈ read, blobSha text = blobSha old → text = old

theorem Sound.lands (sound : branch.Sound blobSha) {file : AgentFile} {call : FileCall} {old : FileText}
    (lands : branch.Lands blobSha key file call old) :
    (branch.step blobSha (.call key)).get file = call.written ∧ call.Keeps old := by
  obtain ⟨selection, read, found, current, tells⟩ := lands
  obtain ⟨same, calls⟩ := (sound.at found).2 rfl
  obtain ⟨text, rfl, sha⟩ := Option.map_eq_some_iff.mp same.symm
  obtain rfl := tells text rfl sha
  refine ⟨?_, fileCall_keeps calls⟩
  cases call with
  | put content =>
      simp only [Branch.step, Branch.call, found, current, Option.map_some, if_true]
      rw [get_next, get_set]
      rfl
  | delete =>
      simp only [Branch.step, Branch.call, found, current, if_true]
      rw [get_next, get_set]
      rfl

/-- After any events, a first attempt that goes through keeps, of the text that it replaces, all that is outside
the managed blocks, but for white space alone and for a manual without marks. -/
theorem first_attempts_keep_text (blobSha : FileText → σ) (agents claude : Option FileText) (events : List SyncEvent)
    {key : Nat} {file : AgentFile} {call : FileCall} {old : FileText}
    (lands : (play (step blobSha) { agents, claude } events).Lands blobSha key file call old) :
    (play (step blobSha) { agents, claude } (events ++ [.call key])).get file = call.written ∧ call.Keeps old := by
  have start : Sound blobSha { agents, claude } := Workers.all_empty
  have sound := invariant (fun _ event sound => sound.step event) start events
  rw [play_append]
  exact sound.lands lands

/-! Notes that someone writes while an export is under way -/

def sampleSelection : Selection where
  agents := some { mode := .standard, managed := "T-001".toList }
  claude := none

def sampleFile : FileText := Instructions.generated { mode := .standard, managed := "T-000".toList }

def sampleCall : FileCall :=
  .put (Instructions.generated { mode := .standard, managed := "T-001".toList } ++ "Notes".toList)

theorem first_attempts_keep_text_sample :
    (play (step id) { agents := some (sampleFile ++ "Notes".toList) }
        ([.start 0 sampleSelection, .read 0] ++ [.call 0])).get .agents = sampleCall.written ∧
      sampleCall.Keeps (sampleFile ++ "Notes".toList) :=
  first_attempts_keep_text id _ _ _
    ⟨sampleSelection, some (sampleFile ++ "Notes".toList), by decide +kernel, by decide +kernel, by decide +kernel⟩

theorem sync_loses_text :
    ((play (step id) { agents := some sampleFile } [.start 0 ⟨none, none⟩, .read 0, .call 0]).agents = none ∧
      demoMarks.removeBlocks (managedMarks.removeBlocks sampleFile) = "
".toList) ∧
    ∃ content ∈ (play (step id) {} ([.start 0 sampleSelection, .read 0, .commit .agents (some "Z".toList)] ++
        [.call 0, .refetch 0, .call 0])).agents,
      (play (step id) {} [.start 0 sampleSelection, .read 0, .commit .agents (some "Z".toList)]).agents =
        some "Z".toList ∧ 'Z' ∉ content := by
  decide +kernel

end Branch

end Thought2Build.Integrations
