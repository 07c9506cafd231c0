import Thought2Build.Library.Blocks
import Thought2Build.Library.Histories
import Thought2Build.Library.Workers
import Thought2Build.Pipeline.GenerationRunsCore

/-!
The instruction files of a repository, AGENTS.md and CLAUDE.md. An export reads a file, merges its managed block into
what it has read and writes the result; other people commit to the same files between any two of its requests.
-/

namespace Thought2Build.Integrations

open Pipeline (isSpace)

abbrev FileText := List Char

def managedMarks : Marks Char where
  opening := "<!-- thought2build:start -->".toList
  closing := "<!-- thought2build:end -->".toList
  opening_ne_nil := by decide
  closing_ne_nil := by decide
  nests := false

def demoMarks : Marks Char where
  opening := "<!-- thought2build:demo-day:start -->".toList
  closing := "<!-- thought2build:demo-day:end -->".toList
  opening_ne_nil := by decide
  closing_ne_nil := by decide
  nests := true

namespace FileText

def strip (text : FileText) : FileText := (text.dropWhile isSpace).rdropWhile isSpace

def withBlock (existing block : FileText) : FileText :=
  let separator :=
    if "\n\n".toList <:+ existing then [] else if "\n".toList <:+ existing then "\n".toList else "\n\n".toList
  existing ++ (separator ++ (block ++ "\n".toList))

def replaceOrAppend (existing block : FileText) : FileText :=
  match managedMarks.firstBlock existing with
  | some (before, _, after) => before ++ (block ++ after)
  | none => existing.withBlock block

def managedBlock (content : FileText) : Option FileText :=
  (managedMarks.firstBlock content).map fun found => found.2.1

def isLegacyManual (existing : FileText) : Bool :=
  "# Build Protocol — ".toList.isPrefixOf existing &&
    ["## Non-negotiable invariants", "## The loop", "## Definition of done", "The tests are the frozen oracle"].all
      fun marker => decide (marker.toList <:+: existing)

def mergeInstructionFile (existing : Option FileText) (generated : FileText) : FileText :=
  if demoMarks.opening <:+: generated then
    let block := strip generated
    match existing with
    | none | some [] => block ++ "\n".toList
    | some existing =>
        match demoMarks.firstBlock existing with
        | some (before, _, after) => before ++ (block ++ after)
        | none => if isLegacyManual existing then block ++ "\n".toList else existing.withBlock block
  else
    match managedBlock generated with
    | none => generated
    | some block =>
        match existing with
        | none | some [] => block ++ "\n".toList
        | some existing => replaceOrAppend existing block

/-- `_remove_managed_instructions`: the cleaned text, where there are blocks in it -/
def removeManagedInstructions (existing : FileText) : Option FileText :=
  let generic := managedMarks.removeBlocks existing
  let updated := demoMarks.removeBlocks generic
  if managedMarks.firstBlock existing = none ∧ demoMarks.firstBlock generic = none then none
  else some (if strip updated = [] then [] else updated)

end FileText

inductive WorkspaceMode where
  | standard | demoDay
  deriving DecidableEq

structure Instructions where
  mode : WorkspaceMode
  managed : FileText
  deriving DecidableEq

def Instructions.generated (instructions : Instructions) : FileText :=
  match instructions.mode with
  | .standard =>
      managedMarks.opening ++ ("\n".toList ++ (instructions.managed ++ ("\n".toList ++
        (managedMarks.closing ++ "\n".toList))))
  | .demoDay =>
      demoMarks.opening ++ ("\n".toList ++ (instructions.managed.strip ++ ("\n".toList ++
        (demoMarks.closing ++ "\n".toList))))

inductive AgentFile where
  | agents | claude
  deriving DecidableEq

structure Selection where
  agents : Option Instructions
  claude : Option Instructions
  deriving DecidableEq

def Selection.get (selection : Selection) : AgentFile → Option Instructions
  | .agents => selection.agents
  | .claude => selection.claude

inductive FileCall where
  | put (content : FileText)
  | delete
  deriving DecidableEq

def fileCall (selected : Option Instructions) (existing : Option FileText) : Option FileCall :=
  match selected with
  | some instructions =>
      let content := FileText.mergeInstructionFile existing instructions.generated
      if existing = some content then none else some (.put content)
  | none => do
      let cleaned ← (← existing).removeManagedInstructions
      return if cleaned = [] then .delete else .put cleaned

def upsertMaxAttempts : Nat := 3

/-! Runs -/

/-- Where an export stands: before the read of a file, before an attempt at a call with a SHA, or before the look-up
of the SHA after a conflict. -/
inductive SyncPoint (σ : Type) where
  | reading (file : AgentFile) (selection : Selection)
  | calling (file : AgentFile) (selection : Selection) (read : Option FileText) (call : FileCall) (sha : Option σ)
      (attempt : Nat)
  | refetching (file : AgentFile) (selection : Selection) (read : Option FileText) (call : FileCall) (attempt : Nat)
  deriving DecidableEq

structure Branch (σ : Type) where
  agents : Option FileText := none
  claude : Option FileText := none
  runs : Workers (SyncPoint σ) := ∅

inductive SyncEvent where
  | start (key : Nat) (selection : Selection)
  | read (key : Nat)
  | call (key : Nat)
  | refetch (key : Nat)
  | fail (key : Nat)
  | commit (file : AgentFile) (content : Option FileText)

namespace Branch

variable {σ : Type} [DecidableEq σ] (blobSha : FileText → σ) (branch : Branch σ)

def get : AgentFile → Option FileText
  | .agents => branch.agents
  | .claude => branch.claude

def set (file : AgentFile) (content : Option FileText) : Branch σ :=
  match file with
  | .agents => { branch with agents := content }
  | .claude => { branch with claude := content }

def move (key : Nat) (point : SyncPoint σ) : Branch σ := { branch with runs := branch.runs.insert key point }

def stop (key : Nat) : Branch σ := { branch with runs := branch.runs.erase key }

def start (key : Nat) (selection : Selection) : Branch σ :=
  if key ∈ branch.runs then branch else branch.move key (.reading .agents selection)

def next (key : Nat) (file : AgentFile) (selection : Selection) : Branch σ :=
  match file with
  | .agents => branch.move key (.reading .claude selection)
  | .claude => branch.stop key

def read (key : Nat) : Branch σ :=
  match branch.runs.lookup key with
  | some (.reading file selection) =>
      let existing := branch.get file
      match fileCall (selection.get file) existing with
      | none => branch.next key file selection
      | some call => branch.move key (.calling file selection existing call (existing.map blobSha) 1)
  | _ => branch

def conflict (key : Nat) (file : AgentFile) (selection : Selection) (read : Option FileText) (call : FileCall)
    (attempt : Nat) : Branch σ :=
  if attempt < upsertMaxAttempts then branch.move key (.refetching file selection read call attempt)
  else branch.stop key

def call (key : Nat) : Branch σ :=
  match branch.runs.lookup key with
  | some (.calling file selection existing (.put content) sha attempt) =>
      if sha = (branch.get file).map blobSha then (branch.set file (some content)).next key file selection
      else branch.conflict key file selection existing (.put content) attempt
  | some (.calling file selection _ .delete none _) => branch.next key file selection
  | some (.calling file selection existing .delete (some sha) attempt) =>
      match branch.get file with
      | none => branch.next key file selection
      | some content =>
          if sha = blobSha content then (branch.set file none).next key file selection
          else branch.conflict key file selection existing .delete attempt
  | _ => branch

def refetch (key : Nat) : Branch σ :=
  match branch.runs.lookup key with
  | some (.refetching file selection existing call attempt) =>
      branch.move key (.calling file selection existing call ((branch.get file).map blobSha) (attempt + 1))
  | _ => branch

def step (branch : Branch σ) : SyncEvent → Branch σ
  | .start key selection => branch.start key selection
  | .read key => branch.read blobSha key
  | .call key => branch.call blobSha key
  | .refetch key => branch.refetch blobSha key
  | .fail key => branch.stop key
  | .commit file content => branch.set file content

end Branch

end Thought2Build.Integrations
