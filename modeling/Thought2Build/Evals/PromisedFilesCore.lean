import Thought2Build.Evals.RequirementCoverageCore

/-! The files that a harness promises in its file tree and in its matrix, and those of them that it does not emit. -/

namespace Thought2Build.Evals

open Patterns Pipeline
open Integrations (Texts)
open Integrations.Texts (splitlines)

/-- What `_file_tree_paths` takes for the drawing in front of an entry -/
def isTreeMark (letter : Char) : Bool := isSpace letter || "`│─├└┃┏┗┣┓┛┫╰╯╭╮|+-".toList.contains letter

def treePath (raw : DocText) : Option DocText :=
  let line := raw.strip
  if line = [] || "```".toList.isPrefixOf line then none
  else
    let path := DocText.strip ((DocText.strip (line.dropWhile isTreeMark)).takeWhile (· ≠ '#'))
    if path = [] || path.getLast? = some '/' || path.getLast? = some ':' then none
    else if path.any fun letter => letter = ' ' || letter = '\t' then none
    else if '.' ∈ (path.splitOn '/').getLastD [] then some path
    else none

def fileTreePaths (body : DocText) : List DocText := (splitlines [] body).filterMap treePath

def fileTreeHeading : String := "## File Tree"

section

variable (texts : Texts) (cases : LetterCases)

def promisedPaths (artifactMd : DocText) : List DocText :=
  fileTreePaths (sectionBody artifactMd fileTreeHeading) ++
    (findGroups matrixTestFile (sectionBody artifactMd matrixHeading)).filter (looksLikeTestFilePath cases)

def promisedHarnessFiles (artifactMd : DocText) : Finset DocText :=
  ((promisedPaths cases artifactMd).map (canonicalTestPath texts)).toFinset

def missingHarnessFiles (artifactMd : DocText) : Finset DocText :=
  (promisedHarnessFiles texts cases artifactMd).filter fun canon =>
    (emittedFileIndex texts artifactMd).fileIsEmitted canon = false

end

end Thought2Build.Evals
