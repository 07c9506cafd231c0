import Thought2Build.Integrations.TaskParserCore
import Thought2Build.Library.UriTexts
import Thought2Build.Pipeline.HarnessExportCore

/-!
The requests of an export to the contents API of GitHub: the paths of the files that it writes, and the URL that each
of them gets.
-/

namespace Thought2Build.Integrations

open UriTexts
open Pipeline (DocText)

/-! Requests -/

def quotePath (path : DocText) : Option DocText :=
  let cleaned := path.dropWhile (· = '/')
  if (cleaned.splitOn '/').contains "..".toList then none else some cleaned

def hexLetter (value : Nat) : Char := "0123456789ABCDEF".toList.getD value '0'

def quote (text : DocText) : DocText :=
  text.flatMap fun letter =>
    if letter.isAlphanum || "_.-~".toList.contains letter then [letter]
    else (String.utf8EncodeChar letter).flatMap fun octet =>
      ['%', hexLetter (octet.toNat / 16), hexLetter (octet.toNat % 16)]

inductive ContentsCall where
  | getFileSha (ref : Option DocText)
  | upsertFile
  | deleteFile

def contentsOf (repo : DocText) : DocText := "/repos/".toList ++ repo ++ "/contents/".toList

/-- The URL that `get_file_sha`, `upsert_file` and `delete_file` request -/
def contentsUrl (repo path : DocText) (call : ContentsCall) : Option DocText :=
  (quotePath path).map fun quoted =>
    match call with
    | .getFileSha (some ref) => contentsOf repo ++ quoted ++ ("?ref=".toList ++ quote ref)
    | _ => contentsOf repo ++ quoted

def addressed (repo url : DocText) : Option (List UInt8) :=
  let path := pathOf url
  if (contentsOf repo).isPrefixOf path then some (percentDecode (path.drop (contentsOf repo).length)) else none

/-! Files -/

/-- `_STAGE_FILES`, the instruction files, and what else stands at the root of the repository -/
def rootFiles : List String :=
  ["SPEC.md", "PLAN.md", "TASKS.md", "VERIFICATION.json", "AGENTS.md", "CLAUDE.md", "CONSTRUCTION_REPORT.md"]

def ciWorkflowPath : String := ".github/workflows/thought2build.yml"

inductive Stack where
  | python | node
  deriving DecidableEq

def taskStubPath (taskRef : String) : Stack → DocText
  | .node => "tests/thought2build/".toList ++ taskRef.toList ++ ".test.ts".toList
  | .python =>
      "tests/thought2build/test_".toList ++ taskRef.toList.map (fun letter => if letter = '-' then '_' else letter) ++
        ".py".toList

def scaffoldPaths (harnessFiles : List (DocText × DocText)) (tasks : List ParsedTask) (detectedStacks : List Stack) :
    List DocText :=
  harnessFiles.map (·.1) ++ [ciWorkflowPath.toList] ++
    tasks.flatMap fun task => detectedStacks.map (taskStubPath task.taskRef)

def exportedPaths (harnessFiles : List (DocText × DocText)) (tasks : List ParsedTask) (detectedStacks : List Stack) :
    List DocText :=
  rootFiles.map String.toList ++ scaffoldPaths harnessFiles tasks detectedStacks

end Thought2Build.Integrations
