import Thought2Build.Library.Bisection
import Thought2Build.Pipeline.UpstreamSectionsCore

/-!
The ladder that makes a problem statement fit a budget of tokens: as it is, cleaned up, with its narrative condensed by
a model, or clamped. Providers and models do not matter for the estimates and are left out.
-/

namespace Thought2Build.Pipeline

open Patterns Pattern
open Integrations (Texts)
open Integrations.Texts (splitlines)

namespace Compressor

/-! Estimates -/

def utf8Length (text : DocText) : Nat := (text.map Char.utf8Size).sum

def estimate (text : DocText) : Nat := if text = [] then 0 else max 1 ((utf8Length text + 3) / 4)

def rstrip (text : DocText) : DocText := text.rdropWhile isSpace

def beforeLast (letter : Char) (text : DocText) : DocText := ((text.reverse.dropWhile (· ≠ letter)).drop 1).reverse

def snapBack (front : DocText) : DocText :=
  if beforeLast '\n' front ≠ [] then beforeLast '\n' front
  else if beforeLast ' ' front ≠ [] then beforeLast ' ' front
  else front

def longestFit (text : DocText) (budget : Nat) : Nat :=
  Bisection.last (fun size => estimate (text.take size) ≤ budget) text.length 0 text.length

def truncateToTokens (text : DocText) (budget : Nat) : DocText :=
  if budget = 0 ∨ text = [] then []
  else if estimate text ≤ budget then text
  else rstrip (snapBack (text.take (longestFit text budget)))

/-! Lines -/

section

variable (texts : Texts)

def listMark : Pattern := sequence [
  lineStart, many isSpace,
  either (andThen (one fun letter => letter = '-' || letter = '*' || letter = '+') (some isSpace))
    (sequence [some texts.isDigit, one fun letter => letter = '.' || letter = ')', some isSpace])]

def modal : Pattern := sequence [
  boundary texts.isWord,
  either (texts.keyword "must") (either (texts.keyword "shall") (either (texts.keyword "should")
    (either (texts.keyword "required") (either (texts.keyword "mandatory") (texts.keyword "acceptance"))))),
  boundary texts.isWord]

def fenceMark : Pattern := sequence [lineStart, many isSpace, literal "```"]

def pageFooter : Pattern := sequence [
  lineStart, many isSpace,
  either (sequence [texts.keyword "page", some isSpace, some texts.isDigit,
      optional (sequence [some isSpace, texts.keyword "of", some isSpace, some texts.isDigit])])
    (either (sequence [one (· = '-'), many isSpace, some texts.isDigit, many isSpace, one (· = '-')])
      (sequence [some texts.isDigit, many isSpace, one (· = '/'), many isSpace, some texts.isDigit])),
  many isSpace, textEnd]

def signaturePhrase : Pattern := sequence [
  lineStart, many isSpace,
  either (sequence [texts.keyword "sent from my ", some texts.isWord])
    (either (sequence [texts.keyword "get outlook for ", some texts.isWord])
      (sequence [texts.keyword "confidentiality notice:", many (· ≠ '\n')])),
  textEnd]

def searches (pattern : Pattern) (text : DocText) : Bool := !(findIter pattern text).isEmpty

def isNormativeLine (line : DocText) : Bool :=
  line.contains '|' || (matchStart (listMark texts) line).isSome || searches (summaryRequirementId texts) line ||
    searches (modal texts) line

def isNormativeBlock (block : DocText) : Bool := (splitlines [] block).any (isNormativeLine texts)

def isFence (line : DocText) : Bool := (matchStart fenceMark line).isSome

def joinLines (lines : List DocText) : DocText := ['\n'].intercalate lines

def joinBlocks (blocks : List DocText) : DocText := ['\n', '\n'].intercalate blocks

/-! Blocks -/

def blocksFrom (inFence : Bool) (current : List DocText) : List DocText → List DocText
  | [] => if current = [] then [] else [joinLines current]
  | line :: rest =>
      if isFence line then blocksFrom (!inFence) (current ++ [line]) rest
      else if inFence then blocksFrom true (current ++ [line]) rest
      else if DocText.strip line = [] then
        if current = [] then blocksFrom false [] rest else joinLines current :: blocksFrom false [] rest
      else blocksFrom false (current ++ [line]) rest

def splitBlocks (text : DocText) : List DocText := blocksFrom false [] (text.splitOn '\n')

/-! Rung 1 -/

def collapseRuns (pending : DocText) : DocText → DocText
  | [] => if pending.length < 2 then pending else [' ']
  | letter :: rest =>
      if isBlank letter then collapseRuns (pending ++ [letter]) rest
      else (if pending.length < 2 then pending else [' ']) ++ letter :: collapseRuns [] rest

def collapseInternalSpaces (line : DocText) : DocText :=
  line.takeWhile isBlank ++ collapseRuns [] (line.dropWhile isBlank)

def keptFrom (inFence : Bool) : List DocText → List DocText
  | [] => []
  | rawLine :: rest =>
      if isFence rawLine then rawLine :: keptFrom (!inFence) rest
      else if inFence then rawLine :: keptFrom true rest
      else if isNormativeLine texts rawLine then rawLine :: keptFrom false rest
      else
        let line := rawLine.filter (· ≠ '\x0c')
        if (matchStart (pageFooter texts) line).isSome || (matchStart (signaturePhrase texts) line).isSome then
          keptFrom false rest
        else (if line.contains '|' then line else collapseInternalSpaces line) :: keptFrom false rest

def distinctFrom (seen : List DocText) : List DocText → List DocText
  | [] => []
  | block :: rest =>
      if seen.contains (DocText.strip block) && !isNormativeBlock texts block then distinctFrom seen rest
      else block :: distinctFrom (DocText.strip block :: seen) rest

def rung1Cleanup (text : DocText) : DocText :=
  joinBlocks (distinctFrom texts [] (splitBlocks (joinLines (keptFrom texts false (text.splitOn '\n')))))

/-! Rung 3 -/

/-- The first pass of `_rung3_clamp`, and what it leaves of the budget -/
def reserve : Nat → List DocText → List (Option DocText) × Nat
  | remaining, [] => ([], remaining)
  | remaining, block :: rest =>
      if isNormativeBlock texts block then
        if estimate block ≤ remaining then
          let (selected, left) := reserve (remaining - estimate block) rest
          (.some block :: selected, left)
        else if 0 < remaining then
          let (selected, left) := reserve 0 rest
          (.some (truncateToTokens block remaining) :: selected, left)
        else
          let (selected, left) := reserve remaining rest
          (none :: selected, left)
      else
        let (selected, left) := reserve remaining rest
        (none :: selected, left)

def fill : Nat → List (DocText × Option DocText) → List (Option DocText)
  | _, [] => []
  | remaining, (_, .some part) :: rest => .some part :: fill remaining rest
  | remaining, (block, none) :: rest =>
      if isNormativeBlock texts block then none :: fill remaining rest
      else if estimate block ≤ remaining then .some block :: fill (remaining - estimate block) rest
      else none :: fill remaining rest

def selection (blocks : List DocText) (budget : Nat) : List (Option DocText) :=
  let (reserved, remaining) := reserve texts budget blocks
  fill texts remaining (blocks.zip reserved)

def assemble (selected : List (Option DocText)) : DocText :=
  joinBlocks ((selected.map fun part => part.getD []).filter (· ≠ []))

def rung3Clamp (text : DocText) (budget : Nat) : DocText :=
  truncateToTokens (assemble (selection texts (splitBlocks text) budget)) budget

/-! Rung 2 -/

structure JudgeCall where
  reduce : Bool
  index : Nat
  content : DocText
  targetTokens : Nat
  maxTokens : Nat

inductive JudgeAnswer where
  | raised
  | answered (text : Option DocText) (stoppedByLimit : Bool)

structure Judge where
  answer : JudgeCall → JudgeAnswer
  timedOut : Bool

def rung2MaxOutputTokens : Nat := 8192

def rung2MinNarrativeBudget : Nat := 200

def rung2JoinSlackTokens : Nat := 64

def rung2ChunkTokens : Nat := 4000

def rung2MaxChunks : Nat := 8

def summarizeChunk (judge : Judge) (reduce : Bool) (index : Nat) (content : DocText) (targetTokens : Nat) :
    Option DocText :=
  let maxTokens := min (targetTokens + 256) rung2MaxOutputTokens
  match judge.answer { reduce, index, content, targetTokens, maxTokens } with
  | .raised => none
  | .answered text false => .some (DocText.strip (text.getD []))
  | .answered _ true =>
      let retryTokens := min (maxTokens * 2) rung2MaxOutputTokens
      if retryTokens ≤ maxTokens then none
      else
        match judge.answer { reduce, index, content, targetTokens, maxTokens := retryTokens } with
        | .answered text false => .some (DocText.strip (text.getD []))
        | _ => none

def chunkWindow : Nat := max 1 (rung2ChunkTokens * 4)

/-- The loop of `_chunk_by_tokens`, each of whose rounds takes a character at least -/
def chunksFrom : Nat → DocText → List DocText
  | 0, _ => []
  | fuel + 1, rest =>
      if rest = [] then []
      else
        let whole := rest.take chunkWindow
        let chunk := if chunkWindow < rest.length ∧ beforeLast '\n' whole ≠ [] then beforeLast '\n' whole else whole
        chunk :: chunksFrom fuel (rest.drop (max chunk.length 1))

def chunkByTokens (text : DocText) : List DocText := (chunksFrom text.length text).filter (DocText.strip · ≠ [])

def mapReduceNarrative (judge : Judge) (chunks : List DocText) (narrativeBudget : Nat) : Option DocText :=
  match chunks with
  | [] => none
  | [chunk] => summarizeChunk judge false 0 chunk narrativeBudget
  | _ => do
      let perChunk := max rung2MinNarrativeBudget (narrativeBudget / chunks.length)
      let results ← chunks.zipIdx.mapM fun (chunk, index) => summarizeChunk judge false index chunk perChunk
      let combined := joinBlocks (results.filter (· ≠ []))
      if estimate combined ≤ narrativeBudget then .some combined
      else summarizeChunk judge true 0 combined narrativeBudget

def rung2Abstractive (judge : Judge) (cleaned : DocText) (budget : Nat) : Option DocText :=
  let blocks := splitBlocks cleaned
  let normative := blocks.filter (isNormativeBlock texts)
  let narrative := blocks.filter (!isNormativeBlock texts ·)
  let normativeText := joinBlocks normative
  let taken := estimate normativeText + rung2JoinSlackTokens
  let chunks := chunkByTokens (joinBlocks narrative)
  if narrative = [] ∨ budget < taken + rung2MinNarrativeBudget ∨ rung2MaxChunks < chunks.length ∨
      judge.timedOut = true then none
  else
    match mapReduceNarrative judge chunks (budget - taken) with
    | none => none
    | .some summary =>
        if DocText.strip summary = [] then none
        else
          let assembled := if normative = [] then summary else DocText.strip (normativeText ++ ['\n', '\n'] ++ summary)
          .some (truncateToTokens assembled budget)

/-! The ladder -/

inductive Rung where
  | zero | one | two | three
  deriving DecidableEq

def compressProblemStatement (raw : DocText) (budget : Nat) : DocText × Rung :=
  if estimate raw ≤ budget then (raw, .zero)
  else if estimate (rung1Cleanup texts raw) ≤ budget then (rung1Cleanup texts raw, .one)
  else (rung3Clamp texts (rung1Cleanup texts raw) budget, .three)

def compress (judge : Judge) (abstractive : Bool) (raw : DocText) (budget : Nat) : DocText × Rung :=
  let (text, rung) := compressProblemStatement texts raw budget
  if rung ≠ .three ∨ abstractive = false then (text, rung)
  else
    match rung2Abstractive texts judge (rung1Cleanup texts raw) budget with
    | .some condensed => (condensed, .two)
    | none => (text, rung)

def classifyCompressionRung (raw compressed : DocText) (budget : Nat) : Rung :=
  if compressed = raw then .zero
  else if compressed = rung1Cleanup texts raw then .one
  else if compressed = rung3Clamp texts (rung1Cleanup texts raw) budget then .three
  else .two

end

end Compressor

end Thought2Build.Pipeline
