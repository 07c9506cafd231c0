import Mathlib.Data.Finset.Option
import Mathlib.Data.Finset.Prod
import Thought2Build.Integrations.TaskParserCore

/-!
The test index of a harness document: one pass over its lines that collects the files, the files with a body and the
tests of each file.
-/

namespace Thought2Build.Pipeline

open Patterns Pattern
open Integrations (Texts)

abbrev DocText := List Char

instance : LawfulBEq DocText := inferInstance

namespace DocText

/-! Texts -/

def ofParts (parts : List String) : DocText := parts.flatMap String.toList

theorem ofParts_letters (parts : List (List Char)) : ofParts (parts.map String.ofList) = parts.flatten := by
  simp [ofParts, List.flatMap_map]

def backtick : Char := '\x60'

def strip (text : DocText) : DocText := (text.dropWhile isSpace).rdropWhile isSpace

def stripTicks (text : DocText) : DocText := (text.dropWhile (· = backtick)).rdropWhile (· = backtick)

def forwardSlashes (text : DocText) : DocText := text.map fun letter => if letter = '\x5c' then '/' else letter

def dropHarness (text : DocText) : DocText :=
  if "harness/".toList.isPrefixOf text then text.drop "harness/".toList.length else text

def splitScopes : DocText → List DocText
  | [] => [[]]
  | ':' :: ':' :: rest => [] :: splitScopes rest
  | letter :: rest =>
      match splitScopes rest with
      | [] => [[letter]]
      | part :: parts => (letter :: part) :: parts

def joinScopes (parts : List DocText) : DocText := "::".toList.intercalate parts

def dropDots : DocText → DocText
  | '.' :: '/' :: rest => dropDots rest
  | text => text

/-- `text.split("\n")`, each line without the carriage returns at its end -/
def lines (text : DocText) : List DocText := (text.splitOn '\n').map fun line => line.rdropWhile (· = '\r')

end DocText

open DocText

def normaliseHarnessRef (ref : DocText) : DocText :=
  joinScopes ((splitScopes (dropHarness (forwardSlashes (stripTicks ref.strip)))).map DocText.strip)

def canonicalTestPath (texts : Texts) (token : DocText) : DocText :=
  let cleaned := forwardSlashes (stripTicks token.strip).strip
  let path := ((splitScopes cleaned).headD []).strip
  let folded := (texts.casefold (String.ofList path)).toList
  dropHarness ((dropDots folded).dropWhile (· = '/'))

/-! Expressions -/

def firstGroup (pattern : Pattern) (line : DocText) : Option DocText :=
  (matchStart pattern line).bind fun finish => finish.groups.getLast?

def harnessFileHeading : Pattern := sequence [
  lineStart, literal "##", optional (one (· = '#')), some isSpace, literal "File:", some isSpace,
  group (some (· ≠ '\n')), textEnd]

def sectionH2 : Pattern := sequence [lineStart, literal "##", some isSpace, one (!isSpace ·)]

def upToThreeSpaces : Pattern :=
  optional (andThen (one (· = ' ')) (optional (andThen (one (· = ' ')) (optional (one (· = ' '))))))

def harnessFenceOpen : Pattern := sequence [
  lineStart, upToThreeSpaces,
  group (either (andThen (literal "```") (many (· = backtick))) (andThen (literal "~~~") (many (· = '~')))),
  group (many (· ≠ backtick)), textEnd]

def isIdentifier (letter : Char) : Bool := letter.isAlphanum || letter = '_'

def isQuote (letter : Char) : Bool := letter = '\x27' || letter = '\x22' || letter = backtick

def isRubyQuote (letter : Char) : Bool := letter = '\x27' || letter = '\x22'

namespace Scanner

variable (texts : Texts)

def indentedBy (rest : List Pattern) : Pattern := sequence (lineStart :: many isSpace :: rest)

def classDef : Pattern := indentedBy [
  literal "class", some isSpace, group (andThen (literal "Test") (some texts.isWord))]

def testFuncDef : Pattern := indentedBy [
  optional (andThen (literal "async") (some isSpace)), literal "def", some isSpace,
  group (andThen (literal "test_") (some texts.isWord))]

def goTestName : Pattern := sequence [
  group (andThen (literal "Test") (many isIdentifier)), many isSpace, one (· = '(')]

def goTestFunc : Pattern := indentedBy [literal "func", some isSpace, goTestName]

def goReceiverTest : Pattern := indentedBy [
  literal "func", some isSpace, one (· = '('), many (· ≠ ')'), one (· = ')'), some isSpace, goTestName]

def quotedArgument : Pattern := sequence [
  many isSpace, one (· = '('), many isSpace, one isQuote, group (some (!isQuote ·)), one isQuote]

def modifier : Pattern := optional (andThen (one (· = '.')) (some texts.isWord))

def tsTestDef : Pattern := indentedBy [
  either (literal "it") (literal "test"), modifier texts, quotedArgument]

def tsEach : Pattern := indentedBy [
  either (literal "it") (literal "test"), literal ".each", boundary texts.isWord, few (· ≠ '\n'), one (· = ')'),
  quotedArgument]

def tsDescribeDef : Pattern := indentedBy [literal "describe", modifier texts, quotedArgument]

def rubyName : Pattern := sequence [
  some isSpace, one isRubyQuote, group (some (!isRubyQuote ·)), one isRubyQuote]

def rspecTest : Pattern := indentedBy [
  either (literal "it") (either (literal "specify") (either (literal "scenario") (literal "example"))), rubyName]

def rspecDescribe : Pattern := indentedBy [
  either (literal "describe") (either (literal "context") (literal "feature")), rubyName]

end Scanner

/-! The index -/

@[ext] structure HarnessTestIndex where
  knownRefs : Finset DocText := ∅
  knownFiles : Finset DocText := ∅
  filesWithTests : Finset DocText := ∅
  filesWithBody : Finset DocText := ∅
  testNames : Finset DocText := ∅
  testsInFile : Finset (DocText × DocText) := ∅

namespace HarnessTestIndex

instance : Union HarnessTestIndex where
  union first second := {
    knownRefs := first.knownRefs ∪ second.knownRefs
    knownFiles := first.knownFiles ∪ second.knownFiles
    filesWithTests := first.filesWithTests ∪ second.filesWithTests
    filesWithBody := first.filesWithBody ∪ second.filesWithBody
    testNames := first.testNames ∪ second.testNames
    testsInFile := first.testsInFile ∪ second.testsInFile }

end HarnessTestIndex

def truthy (value : Option DocText) : Option DocText := value.filter (· ≠ [])

structure Fence where
  char : Char
  length : Nat

structure Scan where
  fileNorm : Option DocText := none
  fileCanon : Option DocText := none
  fence : Option Fence := none
  currentClass : Option DocText := none
  currentDescribe : Option DocText := none

namespace Scan

variable (texts : Texts) (scan : Scan) (line : DocText)

def file : Finset DocText := (truthy scan.fileCanon).toFinset

def inFile (ref : DocText) : Finset DocText :=
  (truthy scan.fileNorm).toFinset.image fun file => joinScopes [file, ref]

def register (name : DocText) (scope : Option DocText) (scopeQualified isTest : Bool) : HarnessTestIndex where
  knownRefs := {name} ∪ scan.inFile name ∪
    if scopeQualified then
      (truthy scope).toFinset.biUnion fun scope =>
        {joinScopes [scope, name]} ∪ scan.inFile (joinScopes [scope, name])
    else ∅
  testNames := if isTest then {name} else ∅
  testsInFile := if isTest then scan.file.image (·, name) else ∅
  filesWithTests := scan.file

def registerAll (names : Option DocText) (scope : Option DocText) (scopeQualified isTest : Bool) : HarnessTestIndex :=
  match names with
  | none => {}
  | .some name => scan.register name scope scopeQualified isTest

def readCode : Scan × HarnessTestIndex :=
  let indented := line.head?.any isSpace
  let cls := firstGroup (Scanner.classDef texts) line
  let currentClass := match cls with
    | .some name => .some name
    | none => if line ≠ [] ∧ indented = false then none else scan.currentClass
  let func := firstGroup (Scanner.testFuncDef texts) line
  let go := (firstGroup Scanner.goTestFunc line).or (firstGroup Scanner.goReceiverTest line)
  let desc := (firstGroup (Scanner.tsDescribeDef texts) line).or (firstGroup Scanner.rspecDescribe line)
  let currentDescribe := desc.or scan.currentDescribe
  let ts := ((firstGroup (Scanner.tsTestDef texts) line).or (firstGroup (Scanner.tsEach texts) line)).or
    (firstGroup Scanner.rspecTest line)
  ({ scan with currentClass, currentDescribe },
    scan.registerAll cls none false false ∪
    scan.registerAll func currentClass ((truthy currentClass).isSome && indented) true ∪
    scan.registerAll go none false true ∪
    scan.registerAll desc none false false ∪
    scan.registerAll ts currentDescribe (truthy currentDescribe).isSome true)

def closes (fence : Fence) : Bool :=
  let leading := line.takeWhile isSpace
  let stripped := line.strip
  leading.length ≤ 3 && '\t' ∉ leading && stripped ≠ [] && stripped.count fence.char = stripped.length &&
    fence.length ≤ stripped.length

def readLine : Scan × HarnessTestIndex :=
  match firstGroup harnessFileHeading line with
  | .some heading =>
      let fileNorm := normaliseHarnessRef heading
      let fileCanon := if fileNorm = [] then none else .some (canonicalTestPath texts fileNorm)
      let next : Scan := { fileNorm := .some fileNorm, fileCanon }
      (next, { knownRefs := (truthy (.some fileNorm)).toFinset ∪ next.file, knownFiles := next.file })
  | none =>
      match scan.fence with
      | none =>
          if (matchStart sectionH2 line).isSome then ({}, {})
          else match firstGroup harnessFenceOpen line with
            | .some (char :: more) => ({ scan with fence := .some { char, length := more.length + 1 } }, {})
            | _ => (scan, {})
      | .some fence =>
          if closes line fence then ({ scan with fence := none }, {})
          else
            let body : HarnessTestIndex := { filesWithBody := if line.strip = [] then ∅ else scan.file }
            if scan.fileNorm = none then (scan, body)
            else
              let read := scan.readCode texts line
              (read.1, body ∪ read.2)

def readLines : Scan → List DocText → HarnessTestIndex
  | _, [] => {}
  | scan, line :: rest =>
      let read := scan.readLine texts line
      read.2 ∪ readLines read.1 rest

end Scan

def harnessTestIndex (texts : Texts) (harnessContent : DocText) : HarnessTestIndex :=
  ({} : Scan).readLines texts harnessContent.lines

end Thought2Build.Pipeline
