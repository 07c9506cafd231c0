import Mathlib.Data.List.MinMax
import Thought2Build.Pipeline.HarnessIndexCore

/-! The body of a section of an artifact: from its heading to the next heading of its level or of a shallower one. -/

namespace Thought2Build.Pipeline

open Patterns Pattern

def isBlank (letter : Char) : Bool := letter = ' ' || letter = '\t'

def upTo (meets : Char → Bool) : Nat → Pattern
  | 0 => nothing
  | count + 1 => optional (andThen (one meets) (upTo meets count))

def numberSigns (most : Nat) : Pattern := sequence [literal "##", upTo (· = '#') (most - 2)]

def titledHeading (title : DocText) : Pattern := sequence [
  lineStart, group (numberSigns 6), some isBlank, sequence (title.map fun letter => one (· = letter)),
  many isBlank, lineEnd]

def parenthesisedHeading (title : DocText) : Pattern := sequence [
  lineStart, group (numberSigns 6), some isBlank, sequence (title.map fun letter => one (· = letter)), many isBlank,
  one (· = '('), many fun letter => letter ≠ ')' && letter ≠ '\n', one (· = ')'), many isBlank, lineEnd]

def terminator (level : Nat) : Pattern := sequence [lineStart, numberSigns level, some isBlank, one (!isSpace ·)]

def levelOf (finish : Cursor) : Nat := (finish.groups.getLast?.map List.length).getD 0

def titleOf (heading : String) : DocText := DocText.strip (heading.toList.dropWhile (· = '#'))

def shallowest (pattern : Pattern) (artifactMd : DocText) : Option (Cursor × Cursor) :=
  (findIter pattern artifactMd).argmin fun found => levelOf found.2

def sectionBody (artifactMd : DocText) (heading : String) : DocText :=
  let title := titleOf heading
  match (shallowest (titledHeading title) artifactMd).or (shallowest (parenthesisedHeading title) artifactMd) with
  | none => []
  | .some found =>
      let rest := found.2.ahead
      match (findIter (terminator (levelOf found.2)) rest).head? with
      | .some finish => DocText.strip (rest.take finish.1.before.length)
      | none => DocText.strip rest

end Thought2Build.Pipeline
