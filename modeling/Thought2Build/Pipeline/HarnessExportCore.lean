import Thought2Build.Integrations.TaskReadersCore
import Thought2Build.Library.Dictionaries
import Thought2Build.Library.SplitTexts
import Thought2Build.Pipeline.HarnessIndexCore

/-!
The files of an exported harness: the labelled blocks of the document, and the path below `harness/` that each of them
gets.
-/

namespace Thought2Build.Pipeline

open Patterns Pattern Dictionaries SplitTexts
open Integrations.Texts (rstripLine)

/-! Paths -/

structure PurePosixPath where
  isAbsolute : Bool
  parts : List DocText
  plain : ∀ part ∈ parts, part ≠ [] ∧ part ≠ ['.'] ∧ '/' ∉ part

namespace PurePosixPath

def ofText (text : DocText) : PurePosixPath where
  isAbsolute := text.head? = .some '/'
  parts := (text.splitOn '/').filter fun part => part ≠ [] ∧ part ≠ ['.']
  plain part member := by
    obtain ⟨split, kept⟩ := List.mem_filter.mp member
    obtain ⟨filled, dot⟩ := of_decide_eq_true kept
    exact ⟨filled, dot, not_mem_part split⟩

def inHarness (path : PurePosixPath) : PurePosixPath where
  isAbsolute := false
  parts := "harness".toList :: path.parts
  plain part member := by
    rcases List.mem_cons.mp member with rfl | below
    · decide
    · exact path.plain part below

def asPosix (path : PurePosixPath) : DocText := ['/'].intercalate path.parts

end PurePosixPath

def windowsReservedNames : List String :=
  ["CON", "PRN", "AUX", "NUL"] ++ ["COM", "LPT"].flatMap fun device =>
    ["1", "2", "3", "4", "5", "6", "7", "8", "9"].map (device ++ ·)

section

variable (upper : DocText → DocText)

def isReserved (part : DocText) : Bool :=
  upper (part.takeWhile (· ≠ '.')) ∈ windowsReservedNames.map String.toList

def safeHarnessPath (filename : DocText) : Option DocText :=
  let normalized := DocText.forwardSlashes filename.strip
  if normalized = [] then none
  else if normalized.any (·.toNat < 32) then none
  else
    let below := DocText.dropHarness normalized
    if below = [] then none
    else
      let path := PurePosixPath.ofText below
      if path.isAbsolute || path.parts.contains "..".toList then none
      else if path.parts = [] || path.parts.any (·.contains ':') then none
      else if path.parts.any (isReserved upper) then none
      else .some path.inHarness.asPosix

/-! Blocks -/

def exportFenceOpen : Pattern := sequence [
  lineStart, group (andThen (literal "```") (many (· = DocText.backtick))),
  many fun letter => isIdentifier letter || letter = '-', textEnd]

def exportFenceFile : Pattern := sequence [
  lineStart, group (andThen (literal "```") (many (· = DocText.backtick))),
  some fun letter => isIdentifier letter || letter = '-', some isSpace,
  group (andThen (one (· ≠ '\n')) (few (· ≠ '\n'))), many isSpace, textEnd]

def readFencedBlock (fence : DocText) : List DocText → Option (List DocText)
  | [] => none
  | line :: rest =>
      if rstripLine line = fence then .some [] else (readFencedBlock fence rest).map (line :: ·)

structure LabelledBlock where
  filename : DocText
  content : DocText
  length : Nat

def blockContent (lines : List DocText) : DocText := ['\n'].intercalate lines ++ ['\n']

def headingBlock (line : DocText) (rest : List DocText) : Option LabelledBlock :=
  (firstGroup harnessFileHeading line).bind fun filename =>
    let blank := rest.takeWhile (DocText.strip · = [])
    match rest.drop blank.length with
    | [] => none
    | opener :: inside =>
        (firstGroup exportFenceOpen (rstripLine opener)).bind fun fence =>
          (readFencedBlock fence inside).map fun content =>
            { filename := DocText.strip filename, content := blockContent content,
              length := blank.length + content.length + 2 }

def fenceFileBlock (line : DocText) (rest : List DocText) : Option LabelledBlock :=
  (matchStart exportFenceFile (rstripLine line)).bind fun finish =>
    match finish.groups with
    | filename :: fence :: _ =>
        (readFencedBlock fence rest).map fun content =>
          { filename, content := blockContent content, length := content.length + 1 }
    | _ => none

structure HarnessFiles where
  files : List (DocText × DocText) := []
  foundLabelledBlock : Bool := false

def HarnessFiles.add (found : HarnessFiles) (block : LabelledBlock) : HarnessFiles where
  files :=
    match safeHarnessPath upper block.filename with
    | .some path => put path block.content found.files
    | none => found.files
  foundLabelledBlock := true

def labelledFiles (found : HarnessFiles) : Nat → List DocText → HarnessFiles
  | _, [] => found
  | skipped + 1, _ :: rest => labelledFiles found skipped rest
  | 0, line :: rest =>
      match (headingBlock line rest).or (fenceFileBlock line rest) with
      | .some block => labelledFiles (found.add upper block) block.length rest
      | none => labelledFiles found 0 rest

def parseLabelledHarnessFiles (harnessContent : DocText) : HarnessFiles :=
  labelledFiles upper {} 0 (harnessContent.splitOn '\n')

def harnessFallback : String := "harness/HARNESS.md"

def parseHarnessFiles (redactUnsafeLines : DocText → DocText) (harnessContent : DocText) : List (DocText × DocText) :=
  let found := parseLabelledHarnessFiles upper harnessContent
  if found.files ≠ [] ∨ found.foundLabelledBlock then found.files
  else [(harnessFallback.toList, redactUnsafeLines harnessContent)]

end

end Thought2Build.Pipeline
